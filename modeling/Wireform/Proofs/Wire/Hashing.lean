import Wireform.Proofs.Wire.Comparison
import Wireform.Wire.Hash

/-! # Hashing

The calls that hashing a value makes depend on the settled value alone, so values that compare equal
are hashed by the same calls. -/

namespace Wireform.Wire

/-! ## Calls of a hasher -/

/-- A call of a hasher. Numbers are given by their bits. -/
inductive HasherCall where
  | unsigned (width : Width) (bits : Nat)
  | signed (width : Width) (bits : Nat)
  | text (value : String)
  deriving DecidableEq, Repr

/-- The bytes of a call for a hasher that makes no difference between kinds of calls. -/
def HasherCall.bytes : HasherCall → List UInt8
  | .unsigned width bits => littleEndian width.bytes bits
  | .signed width bits => littleEndian width.bytes bits
  | .text value => (String.toUTF8 value).data.toList ++ [textEnd]

/-- The width of the integer with the bits of a float. -/
def Precision.width : Precision → Width
  | .single => .four
  | .double => .eight

mutual
/-- The calls that hashing a value makes, in order. -/
def hasherCalls : (shape : Shape) → shape.Value → List HasherCall
  | .unsigned width, value => [.unsigned width (BitVec.toNat (value : BitVec (8 * width.bytes)))]
  | .signed width, value => [.signed width (BitVec.toNat (value : BitVec (8 * width.bytes)))]
  | .float precision, value =>
    [.unsigned precision.width
      (if precision.isZero value then 0
        else BitVec.toNat (value : BitVec (8 * precision.bytes)))]
  | .bool, value => [.unsigned .one (Bool.toNat value)]
  | .char, value => [.unsigned .four (Char.toNat value)]
  | .text, value => [.text value]
  | .unit, _ => []
  | .sequence item, value =>
    .unsigned .pointer (List.length value) :: List.flatMap (hasherCalls item) value
  | .optional _, none => [.unsigned .one 0]
  | .optional content, some value => .unsigned .one 1 :: hasherCalls content value
  | .boxed content, value => hasherCalls content value
  | .array _ item, value => (Row.toList value).flatMap (hasherCalls item)
  | .tuple items, value => hasherCallsTuple items value
  | .record _ _ fields, value => hasherCallsFields fields value

def hasherCallsTuple : (shapes : Shapes) → shapes.Values → List HasherCall
  | .nil, _ => []
  | .cons head tail, (first, rest) => hasherCalls head first ++ hasherCallsTuple tail rest

def hasherCallsFields : (fields : Fields) → fields.Values → List HasherCall
  | .nil, _ => []
  | .cons _ true shape tail, (first, rest) =>
    hasherCalls shape first ++ hasherCallsFields tail rest
  | .cons _ false _ tail, (_, rest) => hasherCallsFields tail rest
end

example : hasherCalls (.tuple (.cons (.float .single) (.cons (.optional .bool) .nil)))
    ((0x80000000 : BitVec 32), some true, ()) =
      [.unsigned .four 0, .unsigned .one 1, .unsigned .one 1] := by decide

theorem flatMap_flatMap_congr {α β γ : Type} {outer : β → List γ} {inner : α → List β}
    {both : α → List γ} (each : ∀ value, (inner value).flatMap outer = both value)
    (values : List α) : (values.flatMap inner).flatMap outer = values.flatMap both := by
  rw [List.flatMap_assoc]
  exact congrArg (List.flatMap · values) (funext each)

mutual
/-- A plain hasher is fed the bytes of all calls. -/
theorem flatMap_bytes_hasherCalls : ∀ (shape : Shape) (value : shape.Value),
    (hasherCalls shape value).flatMap HasherCall.bytes = hashStream shape value
  | .unsigned _, _ => List.append_nil _
  | .signed _, _ => List.append_nil _
  | .float .single, _ => List.append_nil _
  | .float .double, _ => List.append_nil _
  | .bool, _ => rfl
  | .char, _ => List.append_nil _
  | .text, _ => List.append_nil _
  | .unit, _ => rfl
  | .sequence item, value =>
    congrArg (littleEndian 8 (List.length value) ++ ·)
      (flatMap_flatMap_congr (flatMap_bytes_hasherCalls item) value)
  | .optional _, none => rfl
  | .optional content, some value =>
    congrArg (1 :: ·) (flatMap_bytes_hasherCalls content value)
  | .boxed content, value => flatMap_bytes_hasherCalls content value
  | .array _ item, value => flatMap_flatMap_congr (flatMap_bytes_hasherCalls item) value.toList
  | .tuple items, value => flatMap_bytes_hasherCallsTuple items value
  | .record _ _ fields, value => flatMap_bytes_hasherCallsFields fields value

theorem flatMap_bytes_hasherCallsTuple : ∀ (shapes : Shapes) (values : shapes.Values),
    (hasherCallsTuple shapes values).flatMap HasherCall.bytes = hashTuple shapes values
  | .nil, _ => rfl
  | .cons head tail, (first, rest) => by
    rw [hasherCallsTuple, hashTuple, List.flatMap_append, flatMap_bytes_hasherCalls head first,
      flatMap_bytes_hasherCallsTuple tail rest]

theorem flatMap_bytes_hasherCallsFields : ∀ (fields : Fields) (values : fields.Values),
    (hasherCallsFields fields values).flatMap HasherCall.bytes = hashFields fields values
  | .nil, _ => rfl
  | .cons _ true shape tail, (first, rest) => by
    rw [hasherCallsFields, hashFields, List.flatMap_append, flatMap_bytes_hasherCalls shape first,
      flatMap_bytes_hasherCallsFields tail rest]
  | .cons _ false _ tail, (_, rest) => flatMap_bytes_hasherCallsFields tail rest
end

/-! ## Calls for settled values -/

theorem flatMap_settle {α β : Type} {settle : α → α} {calls : α → List β}
    (same : ∀ value, calls (settle value) = calls value) (values : List α) :
    (values.map settle).flatMap calls = values.flatMap calls := by
  rw [List.flatMap_map]
  exact congrArg (List.flatMap · values) (funext same)

theorem itemCalls_settle {α : Type} {settle : α → α} {calls : α → List HasherCall}
    (same : ∀ value, calls (settle value) = calls value) (values : List α) :
    HasherCall.unsigned .pointer (values.map settle).length ::
        (values.map settle).flatMap calls =
      HasherCall.unsigned .pointer values.length :: values.flatMap calls := by
  rw [List.length_map, flatMap_settle same]

theorem rowCalls_settle {α β : Type} {settle : α → α} {calls : α → List β}
    (same : ∀ value, calls (settle value) = calls value) {length : Nat} (row : Row α length) :
    (Row.map settle row).toList.flatMap calls = row.toList.flatMap calls := by
  rw [Row.toList_map, flatMap_settle same]

theorem bits_settled (precision : Precision) (bits : BitVec (8 * precision.bytes)) :
    (if precision.isZero (precision.settled bits) then 0 else (precision.settled bits).toNat) =
      if precision.isZero bits then 0 else bits.toNat := by
  rw [Precision.isZero_settled]
  by_cases zero : precision.isZero bits = true
  · rw [if_pos zero, if_pos zero]
  · rw [if_neg zero, if_neg zero, Precision.settled, if_neg zero]

mutual
/-- The calls of a hasher depend on the settled value alone. -/
theorem hasherCalls_settled : ∀ (shape : Shape) (value : shape.Value),
    hasherCalls shape (settled shape value) = hasherCalls shape value
  | .unsigned _, _ => rfl
  | .signed _, _ => rfl
  | .float precision, value =>
    congrArg (fun bits => [HasherCall.unsigned precision.width bits]) (bits_settled precision value)
  | .bool, _ => rfl
  | .char, _ => rfl
  | .text, _ => rfl
  | .unit, _ => rfl
  | .sequence item, value => itemCalls_settle (hasherCalls_settled item) value
  | .optional _, none => rfl
  | .optional content, some value =>
    congrArg (HasherCall.unsigned .one 1 :: ·) (hasherCalls_settled content value)
  | .boxed content, value => hasherCalls_settled content value
  | .array _ item, value => rowCalls_settle (hasherCalls_settled item) value
  | .tuple items, value => hasherCallsTuple_settled items value
  | .record _ _ fields, value => hasherCallsFields_settled fields value

theorem hasherCallsTuple_settled : ∀ (shapes : Shapes) (values : shapes.Values),
    hasherCallsTuple shapes (settledTuple shapes values) = hasherCallsTuple shapes values
  | .nil, _ => rfl
  | .cons head tail, (first, rest) => by
    rw [settledTuple, hasherCallsTuple, hasherCallsTuple, hasherCalls_settled head first,
      hasherCallsTuple_settled tail rest]

theorem hasherCallsFields_settled : ∀ (fields : Fields) (values : fields.Values),
    hasherCallsFields fields (settledFields fields values) = hasherCallsFields fields values
  | .nil, _ => rfl
  | .cons _ true shape tail, (first, rest) => by
    rw [settledFields, hasherCallsFields, hasherCallsFields, hasherCalls_settled shape first,
      hasherCallsFields_settled tail rest]
  | .cons _ false _ tail, (_, rest) => hasherCallsFields_settled tail rest
end

/-- Values that compare equal are hashed by the same calls, which feed a plain hasher the bytes of
the hash stream. Comparison is symmetric and transitive and does not see the fields that are left
out, and a value equals one of unknown shape exactly if that one has its shape and they compare
equal. -/
theorem comparison_lawful (shape : Shape) :
    (∀ value, (hasherCalls shape value).flatMap HasherCall.bytes = hashStream shape value) ∧
    (∀ left right, equal shape left right = true →
      hasherCalls shape left = hasherCalls shape right) ∧
    (∀ left right, equal shape left right = equal shape right left) ∧
    (∀ left middle right, equal shape left middle = true → equal shape middle right = true →
      equal shape left right = true) ∧
    (∀ left other right otherRight, restored shape left = restored shape other →
      restored shape right = restored shape otherRight →
        equal shape left right = equal shape other otherRight) ∧
    ∀ value other, dynamicEqual shape value other = true ↔
      ∃ inner, other = ⟨shape, inner⟩ ∧ equal shape value inner = true := by
  refine ⟨flatMap_bytes_hasherCalls shape, ?_, equal_comm shape, fun _ _ _ => equal_trans,
    fun _ _ _ _ => equal_eq_of_restored_eq, dynamicEqual_eq_true_iff shape⟩
  intro left right same
  have settledSame := ((equal_eq_true_iff shape left right).mp same).2.2
  rw [← hasherCalls_settled shape left, settledSame, hasherCalls_settled]

/-- Two segments without weight, of opposite signs, with different norms in their points. -/
theorem comparison_lawful_segment :
    let left : segment.Value :=
      (((1 : BitVec 32), (2 : BitVec 32), (99 : BitVec 64), ()),
        ((3 : BitVec 32), (4 : BitVec 32), (0 : BitVec 64), ()), (0x80000000 : BitVec 32), ())
    let right : segment.Value :=
      (((1 : BitVec 32), (2 : BitVec 32), (0 : BitVec 64), ()),
        ((3 : BitVec 32), (4 : BitVec 32), (7 : BitVec 64), ()), (0 : BitVec 32), ())
    equal segment left right = true ∧ hasherCalls segment left = hasherCalls segment right := by
  intro left right
  have same : equal segment left right = true := by decide
  exact ⟨same, (comparison_lawful segment).2.1 left right same⟩

end Wireform.Wire
