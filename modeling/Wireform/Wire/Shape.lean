namespace Wireform.Wire

/-! Shapes of the values that travel on the wire. A shape is a code for a type: numbers of a fixed
width, text, containers, and records whose fields are either serialized or left out. Every
operation on values (moving them over a channel, comparing them, hashing them) is defined by
recursion on the shape, so one definition covers every type that can be built. -/

/-- Widths of integers. A `pointer` integer has 64 bits on the wire and in memory; it is a width of
its own because its type is not the type of the 64-bit integers. -/
inductive Width where
  | one
  | two
  | four
  | eight
  | sixteen
  | pointer
  deriving DecidableEq, Repr, Inhabited

def Width.bytes : Width → Nat
  | .one => 1
  | .two => 2
  | .four => 4
  | .eight => 8
  | .sixteen => 16
  | .pointer => 8

inductive Precision where
  | single
  | double
  deriving DecidableEq, Repr, Inhabited

def Precision.bytes : Precision → Nat
  | .single => 4
  | .double => 8

mutual
/-- A code for a type of values. -/
inductive Shape where
  | unsigned (width : Width)
  | signed (width : Width)
  | float (precision : Precision)
  | bool
  | char
  | text
  | unit
  | sequence (item : Shape)
  | optional (content : Shape)
  | boxed (content : Shape)
  | array (length : Nat) (item : Shape)
  | tuple (items : Shapes)
  /-- A generated struct. `equality` says whether equality and hashing were generated for it. -/
  | record (name : String) (equality : Bool) (fields : Fields)

inductive Shapes where
  | nil
  | cons (head : Shape) (tail : Shapes)

/-- The fields of a record in declaration order. A field that is not `included` keeps its value
in memory and never reaches the wire. -/
inductive Fields where
  | nil
  | cons (name : String) (included : Bool) (shape : Shape) (rest : Fields)
end

deriving instance DecidableEq for Shape
deriving instance DecidableEq for Shapes
deriving instance DecidableEq for Fields
deriving instance Repr for Shape
deriving instance Repr for Shapes
deriving instance Repr for Fields

instance : Inhabited Shape := ⟨.unit⟩

namespace Shapes

def ofList : List Shape → Shapes
  | [] => .nil
  | head :: tail => .cons head (ofList tail)

def toList : Shapes → List Shape
  | .nil => []
  | .cons head tail => head :: tail.toList

end Shapes

/-! ## Values of a shape -/

def Row (α : Type) : Nat → Type
  | 0 => Unit
  | length + 1 => α × Row α length

namespace Row

def replicate {α : Type} (value : α) : (length : Nat) → Row α length
  | 0 => ()
  | length + 1 => (value, replicate value length)

def toList {α : Type} : {length : Nat} → Row α length → List α
  | 0, _ => []
  | _ + 1, (head, tail) => head :: toList tail

def ofList? {α : Type} : (length : Nat) → List α → Option (Row α length)
  | 0, [] => some ()
  | length + 1, head :: tail => (ofList? length tail).map fun rest => (head, rest)
  | _, _ => none

example : (ofList? 2 [true, false]).map toList = some [true, false] := rfl
example : (ofList? 2 [true]).isNone = true := rfl

end Row

mutual
/-- The type that a shape denotes. Numbers, floats included, are bit patterns. -/
def Shape.Value : Shape → Type
  | .unsigned width => BitVec (8 * width.bytes)
  | .signed width => BitVec (8 * width.bytes)
  | .float precision => BitVec (8 * precision.bytes)
  | .bool => Bool
  | .char => Char
  | .text => String
  | .unit => Unit
  | .sequence item => List item.Value
  | .optional content => Option content.Value
  | .boxed content => content.Value
  | .array length item => Row item.Value length
  | .tuple items => items.Values
  | .record _ _ fields => fields.Values

def Shapes.Values : Shapes → Type
  | .nil => Unit
  | .cons head tail => head.Value × tail.Values

def Fields.Values : Fields → Type
  | .nil => Unit
  | .cons _ _ shape rest => shape.Value × rest.Values
end

mutual
/-- The value a target holds before anything is read into it. -/
def Shape.default : (shape : Shape) → shape.Value
  | .unsigned _ => (0 : BitVec _)
  | .signed _ => (0 : BitVec _)
  | .float _ => (0 : BitVec _)
  | .bool => false
  | .char => '\x00'
  | .text => ""
  | .unit => ()
  | .sequence _ => []
  | .optional _ => none
  | .boxed content => content.default
  | .array length item => Row.replicate item.default length
  | .tuple items => items.default
  | .record _ _ fields => fields.default

def Shapes.default : (shapes : Shapes) → shapes.Values
  | .nil => ()
  | .cons head tail => (head.default, tail.default)

def Fields.default : (fields : Fields) → fields.Values
  | .nil => ()
  | .cons _ _ shape rest => (shape.default, rest.default)
end

end Wireform.Wire
