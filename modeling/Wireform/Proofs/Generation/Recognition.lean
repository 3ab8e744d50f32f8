import Wireform.Generation.Validation
import Wireform.Proofs.Names.OpaqueGlob

/-! # Recognition of markers

An attribute is a marker by what its path leads to. A glob of a crate of which nothing is known
takes paths away from the markers: exactly those that it hides. -/

namespace Wireform.Generation

open Wireform.Names Wireform.Syntax

/-! ## Identities of markers -/

/-- The crates of which nothing is known are other packages than the runtime. No package has a colon
in its name. -/
def RuntimeIsKnown (compilation : Compilation) : Prop :=
  ∀ external ∈ compilation.crates, external.exports = none →
    external.crateName ≠ runtimePackage ∧ ':' ∉ external.crateName.toList
deriving Decidable

theorem externalSymbol?_eq {compilation : Compilation} {name id : String}
    (found : compilation.externalSymbol? name = some id) : id = "::" ++ name := by
  unfold Compilation.externalSymbol? at found
  split at found
  · split at found
    · split at found
      · exact (Option.some.inj found).symm
      · cases found
    · cases found
  · cases found

/-- The markers are known by the same identities in all compilations. -/
theorem Markers.of?_eq {compilation : Compilation} {markers : Markers}
    (found : Markers.of? compilation = some markers) :
    markers = ⟨"::" ++ (runtimePackage ++ "::" ++ optInName),
      "::" ++ (runtimePackage ++ "::" ++ exclusionName)⟩ := by
  simp only [Markers.of?, bind, Option.bind_eq_some_iff, pure, Option.some.injEq] at found
  rcases found with ⟨optIn, optInFound, exclusion, exclusionFound, rfl⟩
  rw [externalSymbol?_eq optInFound, externalSymbol?_eq exclusionFound]

/-- The package in the identity of an item of another crate. -/
def packageOf (id : String) : List Char := (id.toList.drop 2).takeWhile (· ≠ ':')

theorem packageOf_external {external : ExternalCrate} (plain : ':' ∉ external.crateName.toList)
    (path : List String) :
    packageOf (Resolved.external external path).symbol.id = external.crateName.toList := by
  have whole : ∀ letter ∈ external.crateName.toList, decide (letter ≠ ':') = true := by
    intro letter among
    exact decide_eq_true fun colon => plain (colon ▸ among)
  have spelled : ∃ rest, (Resolved.external external path).symbol.id.toList =
      "::".toList ++ (external.crateName.toList ++ rest) ∧ rest.takeWhile (· ≠ ':') = [] := by
    cases path with
    | nil => exact ⟨[], by simp [Resolved.symbol], rfl⟩
    | cons name rest =>
      refine ⟨"::".toList ++ (String.intercalate "::" (name :: rest)).toList, ?_, by simp⟩
      rw [Resolved.symbol, String.intercalate_cons_cons]
      simp only [String.toList_append, List.append_assoc]
  rcases spelled with ⟨rest, spelled, ends⟩
  rw [packageOf, spelled, List.drop_left' (by decide), List.takeWhile_append_of_pos whole, ends,
    List.append_nil]

/-- No item of a crate of which nothing is known is a marker. -/
theorem external_ne_marker {compilation : Compilation} (known : RuntimeIsKnown compilation)
    {markers : Markers} (found : Markers.of? compilation = some markers) {marker : String}
    (among : marker ∈ [markers.optIn, markers.exclusion]) {external : ExternalCrate}
    (registered : external ∈ compilation.crates) (closed : external.exports = none)
    (path : List String) : (Resolved.external external path).symbol.id ≠ marker := by
  intro same
  have package : packageOf marker = runtimePackage.toList := by
    rw [Markers.of?_eq found, List.mem_cons, List.mem_singleton] at among
    rcases among with rfl | rfl <;> decide
  rcases known external registered closed with ⟨other, plain⟩
  rw [← same, packageOf_external plain] at package
  exact other (String.toList_inj.mp package)

/-! ## Recognition with a glob and without it -/

variable {compilation : Compilation} {added : AddedGlob} {markers : Markers}

/-- An attribute that is a marker stays one exactly if the glob does not hide its path. -/
theorem isMarker_withGlob (leads : added.LeadsOpaque compilation)
    (known : RuntimeIsKnown compilation) (found : Markers.of? compilation = some markers)
    {marker : String} (among : marker ∈ [markers.optIn, markers.exclusion]) (module : ModulePath)
    (tag : Attribute) :
    isMarker (compilation.withGlob added) module marker tag =
      (isMarker compilation module marker tag &&
        !added.hides compilation module (.ofPath tag.path) .macro_) := by
  have agrees := resolve_matches leads module (.ofPath tag.path) .macro_
  simp only [isMarker, Compilation.symbol?, Compilation.resolvePath?, AddedGlob.hides]
  revert agrees
  generalize added.sight compilation module (.ofPath tag.path) .macro_ = sight
  generalize compilation.resolve? module (.ofPath tag.path) .macro_ = without
  generalize (compilation.withGlob added).resolve? module (.ofPath tag.path) .macro_ = withGlob
  intro agrees
  cases agrees with
  | nothing => rfl
  | clear found => simp only [Sight.isHidden, Bool.not_false, Bool.and_true]
  | hidden path registered closed =>
    simp only [Sight.isHidden, Bool.not_true, Bool.and_false, Option.map_some,
      external_ne_marker known found among registered closed path, decide_false]

theorem validate_eq_unmarked_iff {candidate : Candidate} :
    validate compilation markers candidate = .unmarked ↔
      ∀ tag ∈ candidate.declaration.attributes,
        isMarker compilation candidate.module markers.optIn tag = false := by
  have none_iff : marker? compilation markers candidate = none ↔
      ∀ tag ∈ candidate.declaration.attributes,
        isMarker compilation candidate.module markers.optIn tag = false := by
    simp only [marker?, List.findIdx?_eq_none_iff]
  rw [← none_iff]
  unfold validate
  cases marker? compilation markers candidate with
  | none => exact ⟨fun _ => rfl, fun _ => rfl⟩
  | some marker =>
    refine ⟨fun unmarked => ?_, fun missing => by cases missing⟩
    dsimp only at unmarked
    split at unmarked
    · cases unmarked
    · split at unmarked
      · cases unmarked
      · split at unmarked <;> cases unmarked

/-- A field with a type that is not left out is serialized exactly if its type owns its value and no
attribute leaves it out. -/
theorem verdict_eq_included_iff {context : FieldContext} {field : Field}
    (sized : isZeroSized field.ty = false) :
    context.verdict field = .included ↔
      context.compilation.typeKind? context.candidate.module field.ty
          context.candidate.declaration.parameters.typeNames = some .value ∧
        ∀ tag ∈ field.attributes,
          isForeignSkip tag = false ∧ context.isExclusionMarker tag = false := by
  have none_iff :
      (field.attributes.any fun tag => isForeignSkip tag || context.isExclusionMarker tag) = false ↔
        ∀ tag ∈ field.attributes,
          isForeignSkip tag = false ∧ context.isExclusionMarker tag = false := by
    simp only [List.any_eq_false, Bool.or_eq_true, not_or, Bool.not_eq_true]
  rw [← none_iff]
  unfold FieldContext.verdict
  rw [sized]
  cases context.compilation.typeKind? context.candidate.module field.ty
    context.candidate.declaration.parameters.typeNames with
  | none => simp
  | some kind =>
    cases kind with
    | reference => simp
    | value => cases field.attributes.any _ <;> simp

theorem isZeroSized_of_excluded {context : FieldContext} {field : Field}
    (excluded : context.verdict field = .excluded) : isZeroSized field.ty = false := by
  unfold FieldContext.verdict at excluded
  split at excluded
  · cases excluded
  · rename_i sized
    exact Bool.eq_false_iff.mpr sized

/-- A glob of a crate of which nothing is known keeps the markers, but takes from each the attributes
whose paths it hides. So a struct is unmarked with the glob exactly if its markers are all hidden,
and a field that was left out is serialized exactly if its type still owns its value and all that
left it out is hidden. -/
theorem recognition_withGlob (leads : added.LeadsOpaque compilation)
    (known : RuntimeIsKnown compilation) (found : Markers.of? compilation = some markers) :
    Markers.of? (compilation.withGlob added) = some markers ∧
      (∀ marker ∈ [markers.optIn, markers.exclusion], ∀ module tag,
        isMarker (compilation.withGlob added) module marker tag =
          (isMarker compilation module marker tag &&
            !added.hides compilation module (.ofPath tag.path) .macro_)) ∧
      (∀ candidate, validate (compilation.withGlob added) markers candidate = .unmarked ↔
        ∀ tag ∈ candidate.declaration.attributes,
          isMarker compilation candidate.module markers.optIn tag = true →
          added.hides compilation candidate.module (.ofPath tag.path) .macro_ = true) ∧
      ∀ candidate field, FieldContext.verdict ⟨compilation, markers, candidate⟩ field = .excluded →
        (FieldContext.verdict ⟨compilation.withGlob added, markers, candidate⟩ field = .included ↔
          (compilation.withGlob added).typeKind? candidate.module field.ty
              candidate.declaration.parameters.typeNames = some .value ∧
            ∀ tag ∈ field.attributes, isForeignSkip tag = false ∧
              (isMarker compilation candidate.module markers.exclusion tag = true →
                added.hides compilation candidate.module (.ofPath tag.path) .macro_ = true)) := by
  have recognizes {marker : String} (among : marker ∈ [markers.optIn, markers.exclusion])
      (module : ModulePath) (tag : Attribute) :
      isMarker (compilation.withGlob added) module marker tag = false ↔
        (isMarker compilation module marker tag = true →
          added.hides compilation module (.ofPath tag.path) .macro_ = true) := by
    rw [isMarker_withGlob leads known found among]
    cases isMarker compilation module marker tag <;> simp
  refine ⟨found, fun marker among => isMarker_withGlob leads known found among, ?_, ?_⟩
  · intro candidate
    simp only [validate_eq_unmarked_iff, recognizes List.mem_cons_self]
  · intro candidate field excluded
    rw [verdict_eq_included_iff (isZeroSized_of_excluded excluded)]
    simp only [FieldContext.isExclusionMarker, recognizes (.tail _ List.mem_cons_self)]

/-- All of the standard library hides the runtime package: with it in scope a struct is no longer
marked. -/
theorem recognition_withGlob_std :
    let units := (SourceUnit.parse? "src/lib.rs" ""
      "#[autoser::auto_serialize] pub struct Point { pub x: u32 }").toList
    let compilation := Compilation.ofUnits units [.runtime "autoser"]
    let added : AddedGlob := ⟨[], ⟨false, ["std"]⟩, 0⟩
    let markers : Markers := ⟨"::autoser::auto_serialize", "::autoser::non_serialized"⟩
    Markers.of? compilation = some markers ∧ (Candidate.select compilation).length = 1 ∧
      ∀ candidate ∈ Candidate.select compilation,
        validate compilation markers candidate ≠ .unmarked ∧
          validate (compilation.withGlob added) markers candidate = .unmarked := by
  intro units compilation added markers
  have facts : (compilation.declarations.definition? [] .type "std").isNone = true ∧
      compilation.declarations.imports [] "std" = [] ∧ compilation.declarations.globs [] = [] ∧
      compilation.crate? "std" = some (.opaqueCrate "std" "std") ∧ RuntimeIsKnown compilation ∧
      Markers.of? compilation = some markers ∧ (Candidate.select compilation).length = 1 ∧
      ∀ candidate ∈ Candidate.select compilation,
        validate compilation markers candidate ≠ .unmarked ∧
        ∀ tag ∈ candidate.declaration.attributes,
          isMarker compilation candidate.module markers.optIn tag = true →
          added.hides compilation candidate.module (.ofPath tag.path) .macro_ = true := by
    have read : _ = units := congrArg Option.toList SourceUnit.parse?_ofList.symm
    clear_value units
    subst read
    decide +kernel
  rcases facts with ⟨undefined, unimported, alone, registered, known, found, single, candidates⟩
  have leads : added.LeadsOpaque compilation :=
    AddedGlob.leadsOpaque_of_unbound rfl (by decide) (Option.isNone_iff_eq_none.mp undefined)
      unimported (fun _ _ other among => by rw [alone] at among; cases among) registered rfl
  refine ⟨found, single, fun candidate selected => ⟨(candidates candidate selected).1, ?_⟩⟩
  exact ((recognition_withGlob leads known found).2.2.1 candidate).mpr
    (candidates candidate selected).2

end Wireform.Generation
