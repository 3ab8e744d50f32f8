import Wireform.Wire.Shape

namespace Wireform.Wire

/-! Equality of values as generated structs and their fields see it: floats compare by the rules
of IEEE 754 and a field that is left out of the wire form is left out of the comparison too. -/

namespace Precision

def fractionBits : Precision → Nat
  | .single => 23
  | .double => 52

def magnitude (precision : Precision) (bits : BitVec (8 * precision.bytes)) : Nat :=
  bits.toNat % Nat.pow 2 (8 * precision.bytes - 1)

/-- The magnitude of the infinities: all exponent bits set, no fraction. -/
def infinity (precision : Precision) : Nat :=
  Nat.pow 2 (8 * precision.bytes - 1) - Nat.pow 2 precision.fractionBits

def isNaN (precision : Precision) (bits : BitVec (8 * precision.bytes)) : Bool :=
  precision.infinity < precision.magnitude bits

def isZero (precision : Precision) (bits : BitVec (8 * precision.bytes)) : Bool :=
  precision.magnitude bits = 0

/-- A NaN equals nothing, the two zeros are equal, all else compares by its bits. -/
def equal (precision : Precision) (left right : BitVec (8 * precision.bytes)) : Bool :=
  !precision.isNaN left && !precision.isNaN right &&
    (left == right || (precision.isZero left && precision.isZero right))

example : Precision.single.equal 0x80000000 0 = true := by decide
example : Precision.single.equal 0x7fc00000 0x7fc00000 = false := by decide

end Precision

def same (α : Type) [DecidableEq α] (left right : α) : Bool := decide (left = right)

/-- Two lists of one length whose items compare equal one by one. -/
def equalItems {α : Type} (item : α → α → Bool) : List α → List α → Bool
  | [], [] => true
  | left :: lefts, right :: rights => item left right && equalItems item lefts rights
  | _, _ => false

def equalRow {α : Type} (item : α → α → Bool) : (length : Nat) → Row α length → Row α length → Bool
  | 0, _, _ => true
  | length + 1, (left, lefts), (right, rights) =>
    item left right && equalRow item length lefts rights

def equalOptional {α : Type} (item : α → α → Bool) : Option α → Option α → Bool
  | none, none => true
  | some left, some right => item left right
  | _, _ => false

mutual
def equal : (shape : Shape) → shape.Value → shape.Value → Bool
  | .unsigned width, left, right => same (BitVec (8 * width.bytes)) left right
  | .signed width, left, right => same (BitVec (8 * width.bytes)) left right
  | .float precision, left, right => precision.equal left right
  | .bool, left, right => same Bool left right
  | .char, left, right => same Char left right
  | .text, left, right => same String left right
  | .unit, _, _ => true
  | .sequence item, left, right => equalItems (equal item) left right
  | .optional content, left, right => equalOptional (equal content) left right
  | .boxed content, left, right => equal content left right
  | .array length item, left, right => equalRow (equal item) length left right
  | .tuple items, left, right => equalTuple items left right
  | .record _ _ fields, left, right => equalFields fields left right

def equalTuple : (shapes : Shapes) → shapes.Values → shapes.Values → Bool
  | .nil, _, _ => true
  | .cons head tail, (left, lefts), (right, rights) =>
    equal head left right && equalTuple tail lefts rights

def equalFields : (fields : Fields) → fields.Values → fields.Values → Bool
  | .nil, _, _ => true
  | .cons _ true shape tail, (left, lefts), (right, rights) =>
    equal shape left right && equalFields tail lefts rights
  | .cons _ false _ tail, (_, lefts), (_, rights) => equalFields tail lefts rights
end

structure AnyValue where
  shape : Shape
  value : shape.Value

/-- Equality with a value of unknown shape: a value of another shape is never equal. -/
def dynamicEqual (shape : Shape) (value : shape.Value) (other : AnyValue) : Bool :=
  if same : other.shape = shape then equal shape value (same ▸ other.value) else false

/-- Equality with values of unknown shape is generated for the records that have equality, and
for nothing else. -/
def Shape.hasDynamicEquality : Shape → Bool
  | .record _ equality _ => equality
  | _ => false

end Wireform.Wire
