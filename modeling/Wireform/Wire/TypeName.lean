import Wireform.Wire.Shape

namespace Wireform.Wire

/-! Names of shapes: `u8`, `Vec<Option<f32>>`, `[bool;2]`, `(u8,String)`, and the structs of the
sample crate. -/

/-! ## The sample structs -/

def sample : Shape :=
  .record "Sample" true
    (.cons "value" true (.float .double)
      (.cons "history" true (.sequence (.float .single))
        (.cons "peak" true (.optional (.float .double))
          (.cons "label" true .text .nil))))

/-- A tuple struct without generated equality. -/
def reading : Shape :=
  .record "Reading" false (.cons "0" true (.unsigned .two) .nil)

def wrapper (inner : Shape) : Shape :=
  .record "Wrapper" true (.cons "inner" true inner (.cons "tag" true (.unsigned .one) .nil))

/-- A point. Its cached norm does not travel. -/
def point : Shape :=
  .record "Point" true
    (.cons "x" true (.signed .four)
      (.cons "y" true (.signed .four)
        (.cons "cached_norm" false (.unsigned .eight) .nil)))

def segment : Shape :=
  .record "Segment" true
    (.cons "start" true point
      (.cons "end" true point
        (.cons "weight" true (.float .single) .nil)))

/-! ## Reading a name -/

def Shape.ofWord? : String → Option Shape
  | "u8" => some (.unsigned .one)
  | "u16" => some (.unsigned .two)
  | "u32" => some (.unsigned .four)
  | "u64" => some (.unsigned .eight)
  | "u128" => some (.unsigned .sixteen)
  | "usize" => some (.unsigned .pointer)
  | "i8" => some (.signed .one)
  | "i16" => some (.signed .two)
  | "i32" => some (.signed .four)
  | "i64" => some (.signed .eight)
  | "i128" => some (.signed .sixteen)
  | "isize" => some (.signed .pointer)
  | "f32" => some (.float .single)
  | "f64" => some (.float .double)
  | "bool" => some .bool
  | "char" => some .char
  | "String" => some .text
  | "Sample" => some sample
  | "Reading" => some reading
  | "Point" => some point
  | "Segment" => some segment
  | _ => none

def Shape.ofApplication? (head : String) (argument : Shape) : Option Shape :=
  match head with
  | "Vec" => some (.sequence argument)
  | "Option" => some (.optional argument)
  | "Box" => some (.boxed argument)
  | "Wrapper" => some (wrapper argument)
  | _ => none

/-- The largest number of items a tuple on the wire can have. -/
def maxTupleItems : Nat := 6

def numberOfDigits? (digits : List Char) : Option Nat :=
  if digits.isEmpty then none
  else some (digits.foldl (fun number digit => 10 * number + (digit.toNat - '0'.toNat)) 0)

mutual
/-- Reads one name off the front; every step takes at least one character, so as much fuel as
there are characters is enough. -/
def Shape.scan : (fuel : Nat) → List Char → Option (Shape × List Char)
  | 0, _ => none
  | fuel + 1, '(' :: rest => do
    let (items, rest) ← Shape.scanItems fuel false rest
    match items with
    | [] => pure (.unit, rest)
    | items =>
      if items.length ≤ maxTupleItems then pure (.tuple (Shapes.ofList items), rest) else none
  | fuel + 1, '[' :: rest => do
    let (item, rest) ← Shape.scan fuel rest
    match rest with
    | ';' :: rest =>
      let length ← numberOfDigits? (rest.takeWhile Char.isDigit)
      match rest.dropWhile Char.isDigit with
      | ']' :: rest => pure (.array length item, rest)
      | _ => none
    | _ => none
  | fuel + 1, letters => do
    let word := String.ofList (letters.takeWhile Char.isAlphanum)
    match letters.dropWhile Char.isAlphanum with
    | '<' :: rest =>
      let (argument, rest) ← Shape.scan fuel rest
      match rest with
      | '>' :: rest => (Shape.ofApplication? word argument).map (·, rest)
      | _ => none
    | rest => (Shape.ofWord? word).map (·, rest)

/-- Reads the items of a tuple up to its closing parenthesis. The last item may go without a
comma only if a comma came before it: one item in parentheses is no tuple. -/
def Shape.scanItems : (fuel : Nat) → (afterComma : Bool) → List Char →
    Option (List Shape × List Char)
  | 0, _, _ => none
  | _ + 1, _, ')' :: rest => some ([], rest)
  | fuel + 1, afterComma, letters => do
    let (item, rest) ← Shape.scan fuel letters
    match rest with
    | ',' :: rest =>
      let (items, rest) ← Shape.scanItems fuel true rest
      pure (item :: items, rest)
    | ')' :: rest => if afterComma then pure ([item], rest) else none
    | _ => none
end

/-- The shape that a name without blanks denotes. -/
def Shape.ofName? (name : String) : Option Shape :=
  match Shape.scan (2 * name.length + 1) name.toList with
  | some (shape, []) => some shape
  | _ => none

example : Shape.ofName? "Vec<u8>" = some (.sequence (.unsigned .one)) := by decide
example : Shape.ofName? "(u8,)" = some (.tuple (.cons (.unsigned .one) .nil)) := by decide
example : Shape.ofName? "(bool,[char;3])" =
    some (.tuple (.cons .bool (.cons (.array 3 .char) .nil))) := by decide
example : Shape.ofName? "u7" = none := by decide

end Wireform.Wire
