import Wireform.Generation.Candidate
import Wireform.Generation.Expansion

/-! # Stripping

What expansion refuses, and what it takes away. All attributes of a field that have the name of the
exclusion marker are taken away, but only the first of them is looked at. -/

namespace Wireform.Generation

open Wireform.Names Wireform.Syntax

def namedMarkers (field : Field) : List Attribute :=
  field.attributes.filter fun tag => isNamed tag exclusionName

def withoutMarkers (field : Field) : Field :=
  { field with attributes := field.attributes.filter fun tag => !isNamed tag exclusionName }

/-- Whether the first of a field's markers has no arguments, if it has a marker. -/
def isBareAtFirst (field : Field) : Bool :=
  (namedMarkers field).head?.all fun marker => AttributeContent.isNone marker.content

theorem stripField_eq (field : Field) :
    stripField field =
      if isBareAtFirst field then .ok (withoutMarkers field) else .error .exclusionArguments := by
  rw [isBareAtFirst, namedMarkers, List.head?_filter]
  unfold stripField
  cases found : field.attributes.find? fun tag => isNamed tag exclusionName with
  | some marker => rfl
  | none =>
    -- A field without a named marker is left as it is, and filtering leaves it so as well.
    have whole : field.attributes.filter (fun tag => !isNamed tag exclusionName) =
        field.attributes := by
      rw [List.filter_eq_self]
      intro tag among
      simpa using List.find?_eq_none.mp found tag among
    rw [withoutMarkers, whole]
    rfl

theorem mapM_stripField (fields : List Field) :
    fields.mapM stripField =
      if fields.all isBareAtFirst then .ok (fields.map withoutMarkers)
      else .error .exclusionArguments := by
  induction fields with
  | nil => rfl
  | cons field rest induction =>
    rw [List.mapM_cons, stripField_eq, induction, List.all_cons, List.map_cons]
    cases isBareAtFirst field <;> cases rest.all isBareAtFirst <;> rfl

/-- A struct expands unless it is marked again or a field's first marker has arguments. -/
theorem expand_struct (declaration : Struct) :
    expand (.struct declaration) =
      if declaration.attributes.any (isNamed · optInName) then .error .markedTwice
      else if declaration.fields.all isBareAtFirst then
        .ok { declaration with fields := declaration.fields.map withoutMarkers }
      else .error .exclusionArguments := by
  rw [expand, mapM_stripField]
  cases declaration.attributes.any (isNamed · optInName) <;>
    cases declaration.fields.all isBareAtFirst <;> rfl

theorem length_le_of_checkArguments {given : List Expr} (checked : checkArguments given = .ok ()) :
    given.length ≤ 1 := by
  match given with
  | [] => exact Nat.zero_le 1
  | [_] => exact Nat.le_refl 1
  | _ :: _ :: _ => cases checked

/-- What is left of a marked item is its struct without the markers of its fields. -/
theorem exists_of_expandMarked {arguments item : String} {left : Struct}
    (expanded : expandMarked arguments item = .ok left) :
    ∃ given declaration, parseArguments? arguments = some given ∧ given.length ≤ 1 ∧
      parseItem? item = some (.struct declaration) ∧
      left = { declaration with fields := declaration.fields.map withoutMarkers } := by
  rw [expandMarked] at expanded
  cases read : parseArguments? arguments with
  | none =>
    rw [read] at expanded
    cases expanded
  | some given =>
    simp only [read] at expanded
    cases checked : checkArguments given with
    | error error =>
      rw [checked] at expanded
      cases expanded
    | ok =>
      simp only [checked] at expanded
      cases parsed : parseItem? item with
      | none =>
        rw [parsed] at expanded
        cases expanded
      | some marked =>
        simp only [parsed] at expanded
        cases outcome : expand marked with
        | error error =>
          rw [outcome] at expanded
          cases expanded
        | ok other =>
          rw [outcome] at expanded
          cases expanded
          cases marked with
          | struct declaration =>
            refine ⟨given, declaration, rfl, length_le_of_checkArguments checked, rfl, ?_⟩
            rw [expand_struct] at outcome
            split at outcome
            · cases outcome
            · split at outcome <;> cases outcome
              rfl
          | _ => cases outcome

theorem forall_namedMarkers_iff (field : Field) :
    (∀ marker ∈ namedMarkers field, AttributeContent.isNone marker.content = true) ↔
      isBareAtFirst field = true ∧
        ∀ marker ∈ (namedMarkers field).tail, AttributeContent.isNone marker.content = true := by
  rw [isBareAtFirst]
  cases namedMarkers field with
  | nil => simp
  | cons first rest => simp

/-- A struct expands exactly if it is not marked again and the first marker of each of its fields is
bare. It then keeps everything but the markers of its fields, and otherwise has one reason not to
expand. All markers of its fields are bare exactly if it expands and those behind the first are bare
as well: expansion takes their arguments away without a word. -/
theorem expand_outcomes (declaration : Struct) :
    let again := ∃ tag ∈ declaration.attributes, isNamed tag optInName = true
    (∀ left, expand (.struct declaration) = .ok left ↔
      ¬again ∧ (∀ field ∈ declaration.fields, isBareAtFirst field = true) ∧
        left = { declaration with fields := declaration.fields.map withoutMarkers }) ∧
    (expand (.struct declaration) = .error .markedTwice ↔ again) ∧
    (expand (.struct declaration) = .error .exclusionArguments ↔
      ¬again ∧ ∃ field ∈ declaration.fields, isBareAtFirst field = false) ∧
    ((¬again ∧ ∀ field ∈ declaration.fields, ∀ marker ∈ namedMarkers field,
        AttributeContent.isNone marker.content = true) ↔
      (∃ left, expand (.struct declaration) = .ok left) ∧
        ∀ field ∈ declaration.fields, ∀ marker ∈ (namedMarkers field).tail,
          AttributeContent.isNone marker.content = true) := by
  intro again
  have marked : again ↔ declaration.attributes.any (isNamed · optInName) = true :=
    List.any_eq_true.symm
  have expands (left : Struct) : expand (.struct declaration) = .ok left ↔
      ¬again ∧ (∀ field ∈ declaration.fields, isBareAtFirst field = true) ∧
        left = { declaration with fields := declaration.fields.map withoutMarkers } := by
    rw [expand_struct, marked, ← List.all_eq_true]
    cases declaration.attributes.any (isNamed · optInName) <;>
      cases declaration.fields.all isBareAtFirst <;> simp [eq_comm]
  refine ⟨expands, ?_, ?_, ?_⟩
  · rw [expand_struct, marked]
    cases declaration.attributes.any (isNamed · optInName) <;>
      cases declaration.fields.all isBareAtFirst <;> simp
  · have argued : (∃ field ∈ declaration.fields, isBareAtFirst field = false) ↔
        ¬declaration.fields.all isBareAtFirst = true := by
      simp
    rw [expand_struct, marked, argued]
    cases declaration.attributes.any (isNamed · optInName) <;>
      cases declaration.fields.all isBareAtFirst <;> simp
  · simp only [expands, forall_namedMarkers_iff, forall_and, exists_and_left, exists_eq, and_true,
      and_assoc]

/-- Arguments of a second marker are taken away with it. -/
theorem expand_overlooks_arguments :
    let units := (SourceUnit.parse? "src/lib.rs" ""
      "#[auto_serialize] struct P { #[non_serialized] #[non_serialized(x)] a: u8 }").toList
    ∃ candidate ∈ Candidate.select (.ofUnits units []), ∃ left,
      expand (.struct { candidate.declaration with attributes := [] }) = .ok left ∧
        left.fields.map (·.attributes.length) = [0] ∧
        ∃ field ∈ candidate.declaration.fields, ∃ marker ∈ namedMarkers field,
          AttributeContent.isNone marker.content = false := by
  intro units
  have facts : ∃ candidate ∈ Candidate.select (.ofUnits units []),
      (expand (.struct { candidate.declaration with attributes := [] })).toOption.any
          (fun left => left.fields.map (·.attributes.length) = [0]) = true ∧
        ∃ field ∈ candidate.declaration.fields, ∃ marker ∈ namedMarkers field,
          AttributeContent.isNone marker.content = false := by
    have read : _ = units := congrArg Option.toList SourceUnit.parse?_ofList.symm
    clear_value units
    subst read
    decide +kernel
  rcases facts with ⟨candidate, selected, expands, argued⟩
  cases expanded : expand (.struct { candidate.declaration with attributes := [] }) with
  | error problem =>
    rw [expanded] at expands
    cases expands
  | ok left =>
    rw [expanded] at expands
    exact ⟨candidate, selected, left, expanded, of_decide_eq_true expands, argued⟩

end Wireform.Generation
