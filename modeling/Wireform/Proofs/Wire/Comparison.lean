import Wireform.Proofs.Wire.Encoding
import Wireform.Wire.Equality

/-! # Comparison

Two values compare equal exactly if no NaN takes part in the comparison and they are settled to the
same value: zeros without their signs, and defaults for the fields that are left out. So comparison
is symmetric and transitive, and blind to what settling takes away. -/

namespace Wireform.Wire

namespace Precision

/-- A float without the sign of a zero. -/
def settled (precision : Precision) (bits : BitVec (8 * precision.bytes)) :
    BitVec (8 * precision.bytes) :=
  if precision.isZero bits then 0 else bits

theorem isZero_zero (precision : Precision) : precision.isZero 0 = true := by
  cases precision <;> decide

theorem isZero_settled (precision : Precision) (bits : BitVec (8 * precision.bytes)) :
    precision.isZero (precision.settled bits) = precision.isZero bits := by
  by_cases zero : precision.isZero bits = true
  · rw [settled, if_pos zero, isZero_zero, zero]
  · rw [settled, if_neg zero]

theorem settled_eq_settled_iff (precision : Precision) (left right : BitVec (8 * precision.bytes)) :
    precision.settled left = precision.settled right ↔
      left = right ∨ (precision.isZero left = true ∧ precision.isZero right = true) := by
  constructor
  · intro same
    by_cases zero : precision.isZero left = true
    · have other : precision.isZero right = true := by
        rw [← isZero_settled, ← same, isZero_settled, zero]
      exact .inr ⟨zero, other⟩
    · have other : ¬precision.isZero right = true := by
        rwa [← isZero_settled, ← same, isZero_settled]
      rw [settled, settled, if_neg zero, if_neg other] at same
      exact .inl same
  · rintro (rfl | ⟨leftZero, rightZero⟩)
    · rfl
    · rw [settled, settled, if_pos leftZero, if_pos rightZero]

theorem equal_eq_true_iff (precision : Precision) (left right : BitVec (8 * precision.bytes)) :
    precision.equal left right = true ↔
      (!precision.isNaN left) = true ∧ (!precision.isNaN right) = true ∧
        precision.settled left = precision.settled right := by
  rw [settled_eq_settled_iff]
  simp only [equal, Bool.and_eq_true, Bool.or_eq_true, beq_iff_eq, and_assoc]

end Precision

/-! ## Settled values -/

def Row.map {α β : Type} (change : α → β) : {length : Nat} → Row α length → Row β length
  | 0, _ => ()
  | _ + 1, (head, tail) => (change head, map change tail)

theorem Row.toList_map {α β : Type} (change : α → β) :
    ∀ {length : Nat} (row : Row α length), Row.toList (row.map change) = row.toList.map change
  | 0, _ => rfl
  | _ + 1, (head, tail) => by
    rw [Row.map, Row.toList, Row.toList, List.map_cons, toList_map change tail]

mutual
/-- The value without the signs of its zeros, and with defaults for the fields that are left out. -/
def settled : (shape : Shape) → shape.Value → shape.Value
  | .unsigned _, value => value
  | .signed _, value => value
  | .float precision, value => precision.settled value
  | .bool, value => value
  | .char, value => value
  | .text, value => value
  | .unit, value => value
  | .sequence item, value => List.map (settled item) value
  | .optional content, value => Option.map (settled content) value
  | .boxed content, value => settled content value
  | .array _ item, value => Row.map (settled item) value
  | .tuple items, value => settledTuple items value
  | .record _ _ fields, value => settledFields fields value

def settledTuple : (shapes : Shapes) → shapes.Values → shapes.Values
  | .nil, value => value
  | .cons head tail, (first, rest) => (settled head first, settledTuple tail rest)

def settledFields : (fields : Fields) → fields.Values → fields.Values
  | .nil, value => value
  | .cons _ true shape tail, (first, rest) => (settled shape first, settledFields tail rest)
  | .cons _ false shape tail, (_, rest) => (shape.default, settledFields tail rest)
end

mutual
def comparable : (shape : Shape) → shape.Value → Bool
  | .unsigned _, _ => true
  | .signed _, _ => true
  | .float precision, value => !precision.isNaN value
  | .bool, _ => true
  | .char, _ => true
  | .text, _ => true
  | .unit, _ => true
  | .sequence item, value => List.all value (comparable item)
  | .optional content, value => (Option.toList value).all (comparable content)
  | .boxed content, value => comparable content value
  | .array _ item, value => (Row.toList value).all (comparable item)
  | .tuple items, value => comparableTuple items value
  | .record _ _ fields, value => comparableFields fields value

def comparableTuple : (shapes : Shapes) → shapes.Values → Bool
  | .nil, _ => true
  | .cons head tail, (first, rest) => comparable head first && comparableTuple tail rest

def comparableFields : (fields : Fields) → fields.Values → Bool
  | .nil, _ => true
  | .cons _ true shape tail, (first, rest) => comparable shape first && comparableFields tail rest
  | .cons _ false _ tail, (_, rest) => comparableFields tail rest
end

/-! ## Comparison through settled values -/

section Parts
variable {α β : Type} {first other : α} {rest others : β}
  {firstPlain otherPlain restPlain othersPlain : Bool}

theorem cons_parts_iff {items otherItems : List α} :
    ((firstPlain = true ∧ otherPlain = true ∧ first = other) ∧
        restPlain = true ∧ othersPlain = true ∧ items = otherItems) ↔
      (firstPlain && restPlain) = true ∧ (otherPlain && othersPlain) = true ∧
        first :: items = other :: otherItems := by
  rw [Bool.and_eq_true, Bool.and_eq_true, List.cons.injEq, and_and_and_comm,
    and_and_and_comm (b := first = other)]

theorem pair_parts_iff :
    ((firstPlain = true ∧ otherPlain = true ∧ first = other) ∧
        restPlain = true ∧ othersPlain = true ∧ rest = others) ↔
      (firstPlain && restPlain) = true ∧ (otherPlain && othersPlain) = true ∧
        (first, rest) = (other, others) := by
  rw [Bool.and_eq_true, Bool.and_eq_true, Prod.mk.injEq, and_and_and_comm,
    and_and_and_comm (b := first = other)]

end Parts

theorem same_eq_true_iff {α : Type} [DecidableEq α] (left right : α) :
    same α left right = true ↔ true = true ∧ true = true ∧ left = right := by
  simp only [same, decide_eq_true_eq, true_and]

section Containers
variable {α β : Type} {item : α → α → Bool} {plain : α → Bool} {settle : α → β}
  (each : ∀ left right, item left right = true ↔
    plain left = true ∧ plain right = true ∧ settle left = settle right)
include each

theorem equalItems_eq_true_iff (lefts : List α) :
    ∀ rights, equalItems item lefts rights = true ↔
      lefts.all plain = true ∧ rights.all plain = true ∧ lefts.map settle = rights.map settle := by
  induction lefts with
  | nil =>
    intro rights
    cases rights with
    | nil => simp only [equalItems, List.all_nil, List.map_nil, and_self]
    | cons right rights => simp [equalItems]
  | cons left lefts induction =>
    intro rights
    cases rights with
    | nil => simp [equalItems]
    | cons right rights =>
      rw [equalItems, Bool.and_eq_true, each, induction rights]
      exact cons_parts_iff

theorem equalRow_eq_true_iff : ∀ (length : Nat) (lefts rights : Row α length),
    equalRow item length lefts rights = true ↔
      lefts.toList.all plain = true ∧ rights.toList.all plain = true ∧
        lefts.map settle = rights.map settle
  | 0, _, _ => ⟨fun _ => ⟨rfl, rfl, rfl⟩, fun _ => rfl⟩
  | length + 1, (left, lefts), (right, rights) => by
    rw [equalRow, Bool.and_eq_true, each, equalRow_eq_true_iff length lefts rights]
    exact pair_parts_iff

theorem equalOptional_eq_true_iff (left right : Option α) :
    equalOptional item left right = true ↔
      left.toList.all plain = true ∧ right.toList.all plain = true ∧
        left.map settle = right.map settle := by
  cases left with
  | none => cases right <;> simp [equalOptional]
  | some left =>
    cases right with
    | none => simp [equalOptional]
    | some right => simp [equalOptional, each]

end Containers

mutual
theorem equal_eq_true_iff : ∀ (shape : Shape) (left right : shape.Value),
    equal shape left right = true ↔
      comparable shape left = true ∧ comparable shape right = true ∧
        settled shape left = settled shape right
  | .unsigned width, left, right => same_eq_true_iff (α := BitVec (8 * width.bytes)) left right
  | .signed width, left, right => same_eq_true_iff (α := BitVec (8 * width.bytes)) left right
  | .float precision, left, right => precision.equal_eq_true_iff left right
  | .bool, left, right => same_eq_true_iff (α := Bool) left right
  | .char, left, right => same_eq_true_iff (α := Char) left right
  | .text, left, right => same_eq_true_iff (α := String) left right
  | .unit, _, _ => ⟨fun _ => ⟨rfl, rfl, rfl⟩, fun _ => rfl⟩
  | .sequence item, left, right => equalItems_eq_true_iff (equal_eq_true_iff item) left right
  | .optional content, left, right =>
    equalOptional_eq_true_iff (equal_eq_true_iff content) left right
  | .boxed content, left, right => equal_eq_true_iff content left right
  | .array length item, left, right =>
    equalRow_eq_true_iff (equal_eq_true_iff item) length left right
  | .tuple items, left, right => equalTuple_eq_true_iff items left right
  | .record _ _ fields, left, right => equalFields_eq_true_iff fields left right

theorem equalTuple_eq_true_iff : ∀ (shapes : Shapes) (left right : shapes.Values),
    equalTuple shapes left right = true ↔
      comparableTuple shapes left = true ∧ comparableTuple shapes right = true ∧
        settledTuple shapes left = settledTuple shapes right
  | .nil, _, _ => ⟨fun _ => ⟨rfl, rfl, rfl⟩, fun _ => rfl⟩
  | .cons head tail, (left, lefts), (right, rights) => by
    rw [equalTuple, Bool.and_eq_true, equal_eq_true_iff head left right,
      equalTuple_eq_true_iff tail lefts rights]
    exact pair_parts_iff

theorem equalFields_eq_true_iff : ∀ (fields : Fields) (left right : fields.Values),
    equalFields fields left right = true ↔
      comparableFields fields left = true ∧ comparableFields fields right = true ∧
        settledFields fields left = settledFields fields right
  | .nil, _, _ => ⟨fun _ => ⟨rfl, rfl, rfl⟩, fun _ => rfl⟩
  | .cons _ true shape tail, (left, lefts), (right, rights) => by
    rw [equalFields, Bool.and_eq_true, equal_eq_true_iff shape left right,
      equalFields_eq_true_iff tail lefts rights]
    exact pair_parts_iff
  | .cons _ false shape tail, (_, lefts), (_, rights) => by
    have alike : ((shape.default, settledFields tail lefts) : shape.Value × tail.Values) =
        (shape.default, settledFields tail rights) ↔
          settledFields tail lefts = settledFields tail rights := by
      rw [Prod.mk.injEq]
      exact and_iff_right rfl
    rw [equalFields, equalFields_eq_true_iff tail lefts rights, ← alike]
    rfl
end

theorem equal_comm (shape : Shape) (left right : shape.Value) :
    equal shape left right = equal shape right left := by
  have turned : equal shape left right = true ↔ equal shape right left = true := by
    rw [equal_eq_true_iff, equal_eq_true_iff]
    constructor
    · rintro ⟨leftPlain, rightPlain, same⟩
      exact ⟨rightPlain, leftPlain, same.symm⟩
    · rintro ⟨rightPlain, leftPlain, same⟩
      exact ⟨leftPlain, rightPlain, same.symm⟩
  exact Bool.eq_iff_iff.mpr turned

theorem equal_trans {shape : Shape} {left middle right : shape.Value}
    (first : equal shape left middle = true) (second : equal shape middle right = true) :
    equal shape left right = true := by
  rw [equal_eq_true_iff] at first second ⊢
  exact ⟨first.1, second.2.1, first.2.2.trans second.2.2⟩

/-! ## Fields that are left out

Reading a value over a target changes its fields that are left out and nothing else. None of that
reaches a comparison. -/

section Overlays
variable {α β : Type} {overlay : α → α → α}

section Settled
variable {settle : α → β} (same : ∀ target value, settle (overlay target value) = settle value)
include same

theorem map_overlay (fresh : α) (values : List α) :
    (values.map (overlay fresh)).map settle = values.map settle := by
  rw [List.map_map]
  exact List.map_congr_left fun value _ => same fresh value

theorem optionMap_overlay (fresh : α) (value : Option α) :
    (value.map (overlay fresh)).map settle = value.map settle := by
  rw [Option.map_map]
  exact Option.map_congr fun inner _ => same fresh inner

theorem Row.map_zipWith : ∀ {length : Nat} (targets values : Row α length),
    Row.map settle (Row.zipWith overlay targets values) = values.map settle
  | 0, _, _ => rfl
  | _ + 1, (target, targets), (value, values) => by
    rw [Row.zipWith, Row.map, Row.map, same, map_zipWith targets values]

end Settled

section Plain
variable {plain : α → Bool} (same : ∀ target value, plain (overlay target value) = plain value)
include same

theorem all_overlay (fresh : α) (values : List α) :
    (values.map (overlay fresh)).all plain = values.all plain := by
  rw [List.all_map]
  exact congrArg values.all (funext (same fresh))

theorem optionAll_overlay (fresh : α) (value : Option α) :
    (value.map (overlay fresh)).toList.all plain = value.toList.all plain := by
  cases value with
  | none => rfl
  | some inner => simp only [Option.map_some, Option.toList_some, List.all_cons, same]

theorem Row.all_zipWith : ∀ {length : Nat} (targets values : Row α length),
    (Row.zipWith overlay targets values).toList.all plain = values.toList.all plain
  | 0, _, _ => rfl
  | _ + 1, (target, targets), (value, values) => by
    rw [Row.zipWith, Row.toList, Row.toList, List.all_cons, List.all_cons, same,
      all_zipWith targets values]

end Plain

end Overlays

mutual
theorem settled_overlaid : ∀ (shape : Shape) (target value : shape.Value),
    settled shape (overlaid shape target value) = settled shape value
  | .unsigned _, _, _ => rfl
  | .signed _, _, _ => rfl
  | .float _, _, _ => rfl
  | .bool, _, _ => rfl
  | .char, _, _ => rfl
  | .text, _, _ => rfl
  | .unit, _, _ => rfl
  | .sequence item, _, value => map_overlay (settled_overlaid item) item.default value
  | .optional content, _, value =>
    optionMap_overlay (settled_overlaid content) content.default value
  | .boxed content, target, value => settled_overlaid content target value
  | .array _ item, target, value => Row.map_zipWith (settled_overlaid item) target value
  | .tuple items, target, value => settledTuple_overlaid items target value
  | .record _ _ fields, target, value => settledFields_overlaid fields target value

theorem settledTuple_overlaid : ∀ (shapes : Shapes) (target value : shapes.Values),
    settledTuple shapes (overlaidTuple shapes target value) = settledTuple shapes value
  | .nil, _, _ => rfl
  | .cons head tail, (target, targets), (first, rest) => by
    rw [overlaidTuple, settledTuple, settledTuple, settled_overlaid head target first,
      settledTuple_overlaid tail targets rest]

theorem settledFields_overlaid : ∀ (fields : Fields) (target value : fields.Values),
    settledFields fields (overlaidFields fields target value) = settledFields fields value
  | .nil, _, _ => rfl
  | .cons _ true shape tail, (target, targets), (first, rest) => by
    rw [overlaidFields, settledFields, settledFields, settled_overlaid shape target first,
      settledFields_overlaid tail targets rest]
  | .cons _ false shape tail, (_, targets), (_, rest) => by
    rw [overlaidFields, settledFields, settledFields, settledFields_overlaid tail targets rest]
end

mutual
theorem comparable_overlaid : ∀ (shape : Shape) (target value : shape.Value),
    comparable shape (overlaid shape target value) = comparable shape value
  | .unsigned _, _, _ => rfl
  | .signed _, _, _ => rfl
  | .float _, _, _ => rfl
  | .bool, _, _ => rfl
  | .char, _, _ => rfl
  | .text, _, _ => rfl
  | .unit, _, _ => rfl
  | .sequence item, _, value => all_overlay (comparable_overlaid item) item.default value
  | .optional content, _, value =>
    optionAll_overlay (comparable_overlaid content) content.default value
  | .boxed content, target, value => comparable_overlaid content target value
  | .array _ item, target, value => Row.all_zipWith (comparable_overlaid item) target value
  | .tuple items, target, value => comparableTuple_overlaid items target value
  | .record _ _ fields, target, value => comparableFields_overlaid fields target value

theorem comparableTuple_overlaid : ∀ (shapes : Shapes) (target value : shapes.Values),
    comparableTuple shapes (overlaidTuple shapes target value) = comparableTuple shapes value
  | .nil, _, _ => rfl
  | .cons head tail, (target, targets), (first, rest) => by
    rw [overlaidTuple, comparableTuple, comparableTuple, comparable_overlaid head target first,
      comparableTuple_overlaid tail targets rest]

theorem comparableFields_overlaid : ∀ (fields : Fields) (target value : fields.Values),
    comparableFields fields (overlaidFields fields target value) = comparableFields fields value
  | .nil, _, _ => rfl
  | .cons _ true shape tail, (target, targets), (first, rest) => by
    rw [overlaidFields, comparableFields, comparableFields, comparable_overlaid shape target first,
      comparableFields_overlaid tail targets rest]
  | .cons _ false _ tail, (_, targets), (_, rest) => comparableFields_overlaid tail targets rest
end

theorem equal_restored (shape : Shape) (left right : shape.Value) :
    equal shape (restored shape left) (restored shape right) = equal shape left right := by
  rw [Bool.eq_iff_iff, equal_eq_true_iff, equal_eq_true_iff]
  simp only [restored, settled_overlaid, comparable_overlaid]

/-- A value compares as any value does that differs from it in fields that are left out. -/
theorem equal_eq_of_restored_eq {shape : Shape} {left other right otherRight : shape.Value}
    (lefts : restored shape left = restored shape other)
    (rights : restored shape right = restored shape otherRight) :
    equal shape left right = equal shape other otherRight := by
  rw [← equal_restored, lefts, rights, equal_restored]

/-! ## Values of unknown shape -/

theorem dynamicEqual_eq_true_iff (shape : Shape) (value : shape.Value) (other : AnyValue) :
    dynamicEqual shape value other = true ↔
      ∃ inner, other = ⟨shape, inner⟩ ∧ equal shape value inner = true := by
  rcases other with ⟨otherShape, inner⟩
  unfold dynamicEqual
  by_cases same : otherShape = shape
  · cases same
    rw [dif_pos rfl]
    constructor
    · intro holds
      exact ⟨inner, rfl, holds⟩
    · rintro ⟨_, ⟨⟩, holds⟩
      exact holds
  · rw [dif_neg same]
    constructor
    · intro holds
      cases holds
    · rintro ⟨_, spelled, _⟩
      exact absurd (congrArg AnyValue.shape spelled) same

end Wireform.Wire
