import Wireform.Proofs.Generation.Recognition
import Wireform.Proofs.Generation.Stripping
import Wireform.Proofs.Generation.Transparency

/-! # Markers of fields

Two parties look at the markers of fields. Expansion takes away what has the name of the marker, and
validation leaves out the fields with attributes that lead to it. In a struct without renamed markers
the two differ only in attributes that have the name and lead elsewhere. -/

namespace Wireform.Generation

open Wireform.Names Wireform.Syntax

/-! ## Expansion -/

/-- A struct that expands keeps all but the named markers of its fields. -/
theorem eq_of_expand {declaration left : Struct} (expanded : expand (.struct declaration) = .ok left) :
    left = { declaration with fields := declaration.fields.map withoutMarkers } := by
  rw [expand_struct] at expanded
  split at expanded
  · cases expanded
  · split at expanded
    · exact (Except.ok.inj expanded).symm
    · cases expanded

/-! ## Validation -/

theorem judgeAll_of_accepted {compilation : Compilation} {markers : Markers} {candidate : Candidate}
    {accepted : Accepted} (validated : validate compilation markers candidate = .accepted accepted) :
    FieldContext.judgeAll ⟨compilation, markers, candidate⟩ =
      (accepted.fields, accepted.diagnostics) := by
  unfold validate at validated
  split at validated
  · cases validated
  · dsimp only at validated
    split at validated
    · cases validated
    · split at validated
      · cases validated
      · split at validated
        · cases validated
          rfl
        · cases validated

def Validation.accepted? : Validation → Option Accepted
  | .accepted found => some found
  | _ => none

theorem exists_of_accepted? {validation : Validation} {holds : Accepted → Bool}
    (known : validation.accepted?.any holds = true) :
    ∃ accepted, validation = .accepted accepted ∧ holds accepted = true := by
  cases validation with
  | accepted accepted => exact ⟨accepted, rfl, known⟩
  | unmarked => cases known
  | rejected diagnostic => cases known
  | empty diagnostics => cases known

variable {context : FieldContext} {field : Field}

theorem not_included_of_isExclusionMarker {tag : Attribute} (among : tag ∈ field.attributes)
    (marks : context.isExclusionMarker tag = true) : context.verdict field ≠ .included := by
  intro included
  cases sized : isZeroSized field.ty with
  | true =>
    rw [FieldContext.verdict, if_pos sized] at included
    cases included
  | false =>
    have plain := ((verdict_eq_included_iff sized).mp included).2 tag among
    rw [marks] at plain
    cases plain.2

theorem last?_of_isMarker {compilation : Compilation} {module : ModulePath} {marker : String}
    {tag : Attribute} (marks : isMarker compilation module marker tag = true) :
    tag.path.last?.isSome = true := by
  rw [Path.last?, List.getLast?_isSome]
  intro nameless
  have nowhere : compilation.symbol? module tag.path .macro_ = none := by
    rw [Compilation.symbol?, Compilation.resolvePath?, Target.ofPath, nameless]
    rfl
  rw [isMarker, nowhere] at marks
  cases marks

/-- A marker that no diagnostic calls renamed has the name of the marker. -/
theorem isNamed_of_isExclusionMarker {member : String} {tag : Attribute}
    (spelled : context.renamedMarkers field member = []) (among : tag ∈ field.attributes)
    (marks : context.isExclusionMarker tag = true) : isNamed tag exclusionName = true := by
  rcases Option.isSome_iff_exists.mp (last?_of_isMarker marks) with ⟨name, last⟩
  rw [FieldContext.renamedMarkers, List.map_eq_nil_iff, List.filter_eq_nil_iff] at spelled
  have kept := spelled tag among
  rw [last, marks] at kept
  rw [isNamed, last]
  simpa using kept

/-! ## The two side by side -/

/-- How a field, what expansion leaves of it, and the verdict on it belong together. -/
structure MarkersAgree (context : FieldContext) (field left : Field) (verdict : Verdict) : Prop where
  /-- Expansion takes away the markers, what has their name, and nothing else. -/
  left_eq : left = { field with attributes := field.attributes.filter fun tag =>
    !(context.isExclusionMarker tag || isNamed tag exclusionName) }
  /-- It takes away exactly the markers unless something else has their name. -/
  exactly : namedMarkers field = field.attributes.filter context.isExclusionMarker ↔
    ∀ tag ∈ field.attributes, isNamed tag exclusionName = true →
      context.isExclusionMarker tag = true
  unmarked : ∀ tag ∈ left.attributes, context.isExclusionMarker tag = false
  excluded : ∀ tag ∈ field.attributes, context.isExclusionMarker tag = true → verdict ≠ .included

theorem markersAgree_withoutMarkers {member : String}
    (spelled : context.renamedMarkers field member = []) :
    MarkersAgree context field (withoutMarkers field) (context.verdict field) := by
  have named : ∀ tag ∈ field.attributes, context.isExclusionMarker tag = true →
      isNamed tag exclusionName = true :=
    fun tag among => isNamed_of_isExclusionMarker spelled among
  -- What leads to the marker is named like it, so only what is named so counts.
  have kept : field.attributes.filter (fun tag => !isNamed tag exclusionName) =
      field.attributes.filter fun tag =>
        !(context.isExclusionMarker tag || isNamed tag exclusionName) := by
    apply List.filter_congr
    intro tag among
    cases marks : context.isExclusionMarker tag with
    | false => rw [Bool.false_or]
    | true => rw [named tag among marks, Bool.true_or]
  refine ⟨by rw [withoutMarkers, kept], ?_, ?_, fun tag => not_included_of_isExclusionMarker⟩
  · constructor
    · intro same tag among isNamed
      have stripped : tag ∈ namedMarkers field := List.mem_filter.mpr ⟨among, isNamed⟩
      rw [same] at stripped
      exact (List.mem_filter.mp stripped).2
    · intro marks
      apply List.filter_congr
      intro tag among
      exact Bool.eq_iff_iff.mpr ⟨marks tag among, named tag among⟩
  · intro tag among
    rw [withoutMarkers, kept] at among
    have unmarked := (List.mem_filter.mp among).2
    simp only [Bool.not_or, Bool.and_eq_true, Bool.not_eq_true'] at unmarked
    exact unmarked.1

theorem renamedMarkers_eq_nil {compilation : Compilation} {markers : Markers} {candidate : Candidate}
    {accepted : Accepted} (validated : validate compilation markers candidate = .accepted accepted)
    (spelled : ∀ diagnostic ∈ accepted.diagnostics, diagnostic.code ≠ .renamedMarker) {index : Nat}
    {field : Field} (found : candidate.declaration.fields[index]? = some field) :
    FieldContext.renamedMarkers ⟨compilation, markers, candidate⟩ field (field.member index) = [] := by
  rw [List.eq_nil_iff_forall_not_mem]
  intro diagnostic among
  have code : diagnostic.code = .renamedMarker := by
    rcases List.mem_map.mp among with ⟨tag, _, rfl⟩
    rfl
  apply spelled diagnostic _ code
  have judged := congrArg Prod.snd (judgeAll_of_accepted validated)
  dsimp only at judged
  rw [← judged, FieldContext.judgeAll]
  apply List.mem_flatMap.mpr
  refine ⟨_, List.mem_map.mpr ⟨(field, index), List.mem_zipIdx_iff_getElem?.mpr found, rfl⟩, ?_⟩
  exact List.mem_append_right _ among

/-- In a struct that is accepted without renamed markers, expansion and validation agree on the
markers of every field. Whatever attributes the struct still has when it expands, its fields lose
the markers and what has their name but leads elsewhere, no marker is left, and no field that had a
marker is serialized. -/
theorem expand_of_accepted {compilation : Compilation} {markers : Markers} {candidate : Candidate}
    {accepted : Accepted} (validated : validate compilation markers candidate = .accepted accepted)
    (spelled : ∀ diagnostic ∈ accepted.diagnostics, diagnostic.code ≠ .renamedMarker)
    {attributes : List Attribute} {left : Struct}
    (expanded : expand (.struct { candidate.declaration with attributes := attributes }) = .ok left) :
    left = { candidate.declaration with attributes := attributes, fields := left.fields } ∧
      left.fields.length = candidate.declaration.fields.length ∧
      ∀ index field, candidate.declaration.fields[index]? = some field →
        ∃ stripped judged, left.fields[index]? = some stripped ∧
          accepted.fields[index]? = some judged ∧ judged.member = field.member index ∧
          MarkersAgree ⟨compilation, markers, candidate⟩ field stripped judged.verdict := by
  have left_eq := eq_of_expand expanded
  refine ⟨by rw [left_eq], by rw [left_eq, List.length_map], ?_⟩
  intro index field found
  have judged := congrArg Prod.fst (judgeAll_of_accepted validated)
  dsimp only at judged
  refine ⟨withoutMarkers field,
    ⟨field.member index, FieldContext.verdict ⟨compilation, markers, candidate⟩ field⟩,
    ?_, ?_, rfl, markersAgree_withoutMarkers (renamedMarkers_eq_nil validated spelled found)⟩
  · rw [left_eq]
    simp only [List.getElem?_map, found, Option.map_some]
  · rw [← judged, FieldContext.judgeAll]
    simp only [List.getElem?_map, List.getElem?_zipIdx, found, Option.map_some, Nat.zero_add,
      FieldContext.judge]

/-- Two attributes that lead to the marker, one of them by another name for its crate. -/
theorem expand_of_accepted_named :
    let units := (SourceUnit.parse? "src/lib.rs" ""
      "extern crate autoser as ser; use autoser::non_serialized;
       #[autoser::auto_serialize(false)] pub struct Session {
         pub id: u64, #[non_serialized] pub a: u8, #[doc = a] #[ser::non_serialized] pub b: u8 }").toList
    let compilation := Compilation.ofUnits units [.runtime "autoser"]
    let markers : Markers := ⟨"::autoser::auto_serialize", "::autoser::non_serialized"⟩
    (Candidate.select compilation).length = 1 ∧ ∀ candidate ∈ Candidate.select compilation,
      ∃ accepted left, validate compilation markers candidate = .accepted accepted ∧
        expand (.struct { candidate.declaration with attributes := [] }) = .ok left ∧
        (∀ diagnostic ∈ accepted.diagnostics, diagnostic.code ≠ .renamedMarker) ∧
        accepted.included = ["id"] ∧ left.fields.map (·.attributes.length) = [0, 0, 1] ∧
        ∀ index field, candidate.declaration.fields[index]? = some field →
          ∃ stripped judged, left.fields[index]? = some stripped ∧
            accepted.fields[index]? = some judged ∧ judged.member = field.member index ∧
            MarkersAgree ⟨compilation, markers, candidate⟩ field stripped judged.verdict := by
  intro units compilation markers
  have facts : (Candidate.select compilation).length = 1 ∧
      ∀ candidate ∈ Candidate.select compilation,
        (validate compilation markers candidate).accepted?.any (fun accepted =>
          (expand (.struct { candidate.declaration with attributes := [] })).toOption.any
            fun left => decide <|
              (∀ diagnostic ∈ accepted.diagnostics, diagnostic.code ≠ .renamedMarker) ∧
              accepted.included = ["id"] ∧
              left.fields.map (·.attributes.length) = [0, 0, 1]) = true := by
    set_option maxRecDepth 1000 in
    have read : _ = units := congrArg Option.toList SourceUnit.parse?_ofList.symm
    clear_value units
    subst read
    decide +kernel
  refine ⟨facts.1, ?_⟩
  intro candidate selected
  rcases exists_of_accepted? (facts.2 candidate selected) with ⟨accepted, validated, expands⟩
  rcases exists_of_toOption expands with ⟨left, expanded, known⟩
  rcases of_decide_eq_true known with ⟨spelled, included, counts⟩
  exact ⟨accepted, left, validated, expanded, spelled, included, counts,
    (expand_of_accepted validated spelled expanded).2.2⟩

/-- An attribute with the name of the marker that leads nowhere is taken away as well, and its field
is serialized. -/
theorem expand_strips_unresolved :
    let units := (SourceUnit.parse? "src/lib.rs" ""
      "#[autoser::auto_serialize(false)] pub struct Config {
         #[non_serialized] pub retries: u8, pub timeout: u32 }").toList
    let compilation := Compilation.ofUnits units [.runtime "autoser"]
    let markers : Markers := ⟨"::autoser::auto_serialize", "::autoser::non_serialized"⟩
    ∃ candidate ∈ Candidate.select compilation, ∃ accepted left,
      validate compilation markers candidate = .accepted accepted ∧
        expand (.struct { candidate.declaration with attributes := [] }) = .ok left ∧
        accepted.diagnostics = [] ∧ accepted.included = ["retries", "timeout"] ∧
        candidate.declaration.fields.map (fun field => (field.attributes.filter
          (FieldContext.isExclusionMarker ⟨compilation, markers, candidate⟩)).length) = [0, 0] ∧
        candidate.declaration.fields.map (·.attributes.length) = [1, 0] ∧
        left.fields.map (·.attributes.length) = [0, 0] := by
  intro units compilation markers
  have facts : ∃ candidate ∈ Candidate.select compilation,
      (validate compilation markers candidate).accepted?.any (fun accepted =>
        (expand (.struct { candidate.declaration with attributes := [] })).toOption.any
          fun left => decide <|
            accepted.diagnostics = [] ∧ accepted.included = ["retries", "timeout"] ∧
            candidate.declaration.fields.map (fun field => (field.attributes.filter
              (FieldContext.isExclusionMarker ⟨compilation, markers, candidate⟩)).length) =
                [0, 0] ∧
            candidate.declaration.fields.map (·.attributes.length) = [1, 0] ∧
            left.fields.map (·.attributes.length) = [0, 0]) = true := by
    have read : _ = units := congrArg Option.toList SourceUnit.parse?_ofList.symm
    clear_value units
    subst read
    decide +kernel
  rcases facts with ⟨candidate, selected, outcome⟩
  rcases exists_of_accepted? outcome with ⟨accepted, validated, expands⟩
  rcases exists_of_toOption expands with ⟨left, expanded, known⟩
  exact ⟨candidate, selected, accepted, left, validated, expanded, of_decide_eq_true known⟩

end Wireform.Generation
