import Wireform.Wire.Serialize
import Wireform.Wire.TypeName

/-! # Encodings

The bytes that stand for a value, told apart from any channel, the values that have them, and what
is left of a value that is written and read again. -/

namespace Wireform.Wire

/-! ## Words as bytes -/

theorem pow_256_eq (count : Nat) : Nat.pow 256 count = Nat.pow 2 (8 * count) := by
  rw [Nat.pow_eq, Nat.pow_eq, Nat.pow_mul]

theorem toNat_ofNat_of_lt {count number : Nat} (bound : number < Nat.pow 2 (8 * count)) :
    (BitVec.ofNat (8 * count) number).toNat = number := by
  rw [BitVec.toNat_ofNat]
  exact Nat.mod_eq_of_lt bound

theorem lt_of_le_maxLength {length : Nat} (fits : length ≤ maxLength) :
    length < Nat.pow 2 (8 * 4) := by
  simp only [maxLength] at fits
  simp only [Nat.pow_eq]
  omega

theorem ofNat_littleEndian (count : Nat) (word : BitVec (8 * count)) :
    BitVec.ofNat (8 * count) (ofLittleEndian (littleEndian count word.toNat)) = word := by
  have bound : word.toNat < Nat.pow 256 count := by
    rw [pow_256_eq]
    exact word.isLt
  rw [ofLittleEndian_littleEndian, Nat.mod_eq_of_lt bound, BitVec.ofNat_toNat, BitVec.setWidth_eq]

/-! ## Values as bytes -/

mutual
/-- The bytes of a value. A field that is left out has none. -/
def encoding : (shape : Shape) → shape.Value → List UInt8
  | .unsigned width, value =>
    littleEndian width.bytes (BitVec.toNat (value : BitVec (8 * width.bytes)))
  | .signed width, value =>
    littleEndian width.bytes (BitVec.toNat (value : BitVec (8 * width.bytes)))
  | .float precision, value =>
    littleEndian precision.bytes (BitVec.toNat (value : BitVec (8 * precision.bytes)))
  | .bool, value => littleEndian 1 (Bool.toNat value)
  | .char, value => littleEndian 4 (Char.toNat value)
  | .text, value =>
    littleEndian 4 (String.utf8ByteSize value) ++ (String.toUTF8 value).data.toList
  | .unit, _ => []
  | .sequence item, value =>
    littleEndian 4 (List.length value) ++ List.flatMap (encoding item) value
  | .optional content, value =>
    littleEndian 1 (Bool.toNat (Option.isSome value)) ++
      List.flatMap (encoding content) (Option.toList value)
  | .boxed content, value => encoding content value
  | .array _ item, value => (Row.toList value).flatMap (encoding item)
  | .tuple items, value => encodingTuple items value
  | .record _ _ fields, value => encodingFields fields value

def encodingTuple : (shapes : Shapes) → shapes.Values → List UInt8
  | .nil, _ => []
  | .cons head tail, (first, rest) => encoding head first ++ encodingTuple tail rest

def encodingFields : (fields : Fields) → fields.Values → List UInt8
  | .nil, _ => []
  | .cons _ true shape tail, (first, rest) => encoding shape first ++ encodingFields tail rest
  | .cons _ false _ tail, (_, rest) => encodingFields tail rest
end

mutual
/-- Whether the length of every text and every sequence that is serialized fits its prefix. -/
def fits : (shape : Shape) → shape.Value → Bool
  | .unsigned _, _ => true
  | .signed _, _ => true
  | .float _, _ => true
  | .bool, _ => true
  | .char, _ => true
  | .text, value => decide (String.utf8ByteSize value ≤ maxLength)
  | .unit, _ => true
  | .sequence item, value => decide (List.length value ≤ maxLength) && List.all value (fits item)
  | .optional content, value => (Option.toList value).all (fits content)
  | .boxed content, value => fits content value
  | .array _ item, value => (Row.toList value).all (fits item)
  | .tuple items, value => fitsTuple items value
  | .record _ _ fields, value => fitsFields fields value

def fitsTuple : (shapes : Shapes) → shapes.Values → Bool
  | .nil, _ => true
  | .cons head tail, (first, rest) => fits head first && fitsTuple tail rest

def fitsFields : (fields : Fields) → fields.Values → Bool
  | .nil, _ => true
  | .cons _ true shape tail, (first, rest) => fits shape first && fitsFields tail rest
  | .cons _ false _ tail, (_, rest) => fitsFields tail rest
end

/-- Combines two rows of one length item by item. -/
def Row.zipWith {α β γ : Type} (combine : α → β → γ) :
    {length : Nat} → Row α length → Row β length → Row γ length
  | 0, _, _ => ()
  | _ + 1, (left, lefts), (right, rights) => (combine left right, zipWith combine lefts rights)

mutual
/-- A target after the encoding of `value` was read into it. Its fields that are left out keep what
they held, but the items of a sequence and the content of an optional value are new, so that there
these fields hold their default. -/
def overlaid : (shape : Shape) → (target value : shape.Value) → shape.Value
  | .unsigned _, _, value => value
  | .signed _, _, value => value
  | .float _, _, value => value
  | .bool, _, value => value
  | .char, _, value => value
  | .text, _, value => value
  | .unit, _, value => value
  | .sequence item, _, value => List.map (overlaid item item.default) value
  | .optional content, _, value => Option.map (overlaid content content.default) value
  | .boxed content, target, value => overlaid content target value
  | .array _ item, target, value => Row.zipWith (overlaid item) target value
  | .tuple items, target, value => overlaidTuple items target value
  | .record _ _ fields, target, value => overlaidFields fields target value

def overlaidTuple : (shapes : Shapes) → (target value : shapes.Values) → shapes.Values
  | .nil, _, value => value
  | .cons head tail, (target, targets), (first, rest) =>
    (overlaid head target first, overlaidTuple tail targets rest)

def overlaidFields : (fields : Fields) → (target value : fields.Values) → fields.Values
  | .nil, _, value => value
  | .cons _ true shape tail, (target, targets), (first, rest) =>
    (overlaid shape target first, overlaidFields tail targets rest)
  | .cons _ false _ tail, (target, targets), (_, rest) => (target, overlaidFields tail targets rest)
end

/-- A value in which every field that is left out, at any depth, holds its default. -/
def restored (shape : Shape) (value : shape.Value) : shape.Value :=
  overlaid shape shape.default value

example : restored point ((1 : BitVec 32), (2 : BitVec 32), (99 : BitVec 64), ()) =
    ((1 : BitVec 32), (2 : BitVec 32), (0 : BitVec 64), ()) := rfl

/-! ## Defaults fit -/

theorem Row.all_replicate {α : Type} (test : α → Bool) (value : α) (holds : test value = true) :
    ∀ length, (Row.toList (Row.replicate value length)).all test = true
  | 0 => rfl
  | length + 1 => by
      simp only [Row.replicate, Row.toList, List.all_cons, holds, Bool.true_and]
      exact Row.all_replicate test value holds length

mutual
theorem fits_default : ∀ shape : Shape, fits shape shape.default = true
  | .unsigned _ => rfl
  | .signed _ => rfl
  | .float _ => rfl
  | .bool => rfl
  | .char => rfl
  | .text => rfl
  | .unit => rfl
  | .sequence _ => rfl
  | .optional _ => rfl
  | .boxed content => fits_default content
  | .array length item => Row.all_replicate (fits item) item.default (fits_default item) length
  | .tuple items => fitsTuple_default items
  | .record _ _ fields => fitsFields_default fields

theorem fitsTuple_default : ∀ shapes : Shapes, fitsTuple shapes shapes.default = true
  | .nil => rfl
  | .cons head tail => by
      rw [Shapes.default, fitsTuple, fits_default head, fitsTuple_default tail]
      rfl

theorem fitsFields_default : ∀ fields : Fields, fitsFields fields fields.default = true
  | .nil => rfl
  | .cons _ true shape tail => by
      rw [Fields.default, fitsFields, fits_default shape, fitsFields_default tail]
      rfl
  | .cons _ false shape tail => fitsFields_default tail
end

end Wireform.Wire
