import Mathlib.Data.List.Nodup
import Wireform.Proofs.Generation.Transparency
import Wireform.Proofs.Names.Identity

/-! # File names

A fragment's file is named after its struct: the names of the modules around it and its own name,
with dots between them. All of them are identifiers, so the file name tells them apart again. -/

namespace Wireform.Generation

open Wireform.Names Wireform.Syntax Wireform.Text

/-! ## Candidates -/

namespace Candidate

def path (candidate : Candidate) : List String := candidate.module ++ [candidate.typeName]

end Candidate

theorem visibilityProblem?_of_accepted {compilation : Compilation} {markers : Markers}
    {candidate : Candidate} {accepted : Accepted}
    (validated : validate compilation markers candidate = .accepted accepted) :
    visibilityProblem? compilation candidate = none := by
  rw [validate] at validated
  split at validated
  · cases validated
  · cases found : visibilityProblem? compilation candidate with
    | none => rfl
    | some problem =>
      simp only [found] at validated
      cases validated

theorem moduleVisibility?_of_hiddenModule? {compilation : Compilation} {module : ModulePath}
    (notHidden : hiddenModule? compilation module = none) {depth : Nat}
    (within : depth < module.length) :
    ∃ visible, compilation.moduleVisibility? (module.take (depth + 1)) = some visible := by
  have reached := List.find?_eq_none.mp notHidden (module.take (depth + 1))
    (List.mem_map_of_mem (List.mem_range.mpr within))
  cases found : compilation.moduleVisibility? (module.take (depth + 1)) with
  | none => simp [found] at reached
  | some visible => exact ⟨visible, rfl⟩

section OfUnits
variable {units : List SourceUnit} {externalCrates : List ExternalCrate} {markers : Markers}
  {candidate : Candidate} {accepted : Accepted}

/-- Where the root can name a struct, every module around the struct is declared by an item. -/
theorem isIdentifierPath_of_visible
    (selected : candidate ∈ Candidate.select (.ofUnits units externalCrates))
    (noProblem : visibilityProblem? (.ofUnits units externalCrates) candidate = none) :
    isIdentifierPath candidate.path = true := by
  rw [isIdentifierPath_iff, Candidate.path, List.forall_mem_append]
  constructor
  · rw [visibilityProblem?] at noProblem
    split at noProblem
    · rename_i atRoot
      rw [List.isEmpty_iff.mp atRoot]
      exact List.forall_mem_nil _
    · cases hidden : hiddenModule? (.ofUnits units externalCrates) candidate.module with
      | some path =>
        rw [hidden] at noProblem
        cases noProblem
      | none =>
        intro name among
        obtain ⟨depth, within, rfl⟩ := List.mem_iff_getElem.mp among
        obtain ⟨visible, declared⟩ := moduleVisibility?_of_hiddenModule? hidden within
        obtain ⟨parent, last, same, identifier⟩ := exists_of_moduleVisibility? declared
        rw [List.take_succ_eq_append_getElem within] at same
        rw [List.singleton_inj.mp (List.append_inj' same rfl).2]
        exact identifier
  · intro name among
    obtain rfl := List.mem_singleton.mp among
    exact (Name.isIdentifier_iff.mp
      (Candidate.contains_of_mem_select selected).isIdentified).1

theorem isIdentifierPath_of_accepted
    (selected : candidate ∈ Candidate.select (.ofUnits units externalCrates))
    (validated : validate (.ofUnits units externalCrates) markers candidate = .accepted accepted) :
    isIdentifierPath candidate.path = true :=
  isIdentifierPath_of_visible selected (visibilityProblem?_of_accepted validated)

theorem fileName_blueprint :
    (candidate.blueprint accepted).fileName = ".".intercalate candidate.path ++ fragmentSuffix :=
  rfl

end OfUnits

/-! ## Fragments -/

theorem fileName_of_fragment {blueprint : Blueprint} {fragment : Fragment}
    (generates : blueprint.fragment = .ok fragment) : fragment.fileName = blueprint.fileName := by
  rw [Blueprint.fragment] at generates
  cases named : Blueprint.moduleNames blueprint.modules with
  | error error =>
    rw [named] at generates
    cases generates
  | ok modules =>
    cases spelled : blueprint.code modules with
    | error error =>
      simp only [named, spelled, bind, Except.bind] at generates
      cases generates
    | ok code =>
      simp only [named, spelled, bind, Except.bind] at generates
      cases generates
      rfl

namespace Cache

variable {cache after : Cache} {compilation : Compilation} {markers : Markers}
  {candidate : Candidate} {holds : Fragment → Prop}

/-- All fragments in the cache have the property. -/
def Keeps (cache : Cache) (holds : Fragment → Prop) : Prop :=
  ∀ entry ∈ cache.fragments, holds entry.2

variable [Digest]

theorem Keeps.emit (keeps : cache.Keeps holds) {blueprint : Blueprint} {emission : Emission}
    (generates : ∀ fragment, blueprint.fragment = .ok fragment → holds fragment)
    (emits : cache.emit blueprint = .ok (emission, after)) :
    holds emission.fragment ∧ after.Keeps holds := by
  rcases emit_eq_ok emits with ⟨_, ⟨_, found, rfl⟩ | ⟨_, _, generated, rfl⟩⟩
  · rcases Option.map_eq_some_iff.mp found with ⟨entry, found, same⟩
    rw [← same]
    exact ⟨keeps entry (List.mem_of_find?_eq_some found), keeps⟩
  · have own := generates emission.fragment generated
    exact ⟨own, List.forall_mem_append.mpr ⟨keeps, List.forall_mem_singleton.mpr own⟩⟩

theorem Keeps.process (keeps : cache.Keeps holds) {outcome : Outcome}
    (generates : ∀ accepted, validate compilation markers candidate = .accepted accepted →
      ∀ fragment, (candidate.blueprint accepted).fragment = .ok fragment → holds fragment)
    (processes : cache.process compilation markers candidate = .ok (outcome, after)) :
    (∀ emission, outcome.emission? = some emission → holds emission.fragment) ∧
      after.Keeps holds := by
  rcases process_eq_ok processes with ⟨_, nothing, rfl⟩ | ⟨accepted, emission, validated, rfl, emits⟩
  · rw [nothing]
    exact ⟨nofun, keeps⟩
  · rcases keeps.emit (generates accepted validated) emits with ⟨own, kept⟩
    refine ⟨?_, kept⟩
    intro other same
    cases same
    exact own

theorem Keeps.processAll {candidates : List Candidate} {results : List (Candidate × Outcome)}
    (keeps : cache.Keeps holds)
    (generates : ∀ candidate ∈ candidates, ∀ accepted,
      validate compilation markers candidate = .accepted accepted →
      ∀ fragment, (candidate.blueprint accepted).fragment = .ok fragment → holds fragment)
    (processes : (cache.processAll compilation markers candidates).1 = .ok results) :
    ∀ emission ∈ results.filterMap fun result => result.2.emission?, holds emission.fragment := by
  -- Each candidate finds the cache as the one before left it, so the cache is general here.
  induction candidates generalizing cache results with
  | nil =>
    cases processes
    exact List.forall_mem_nil _
  | cons candidate rest induction =>
    obtain ⟨own, others⟩ := List.forall_mem_cons.mp generates
    rw [Cache.processAll] at processes
    cases processed : cache.process compilation markers candidate with
    | error error =>
      simp only [processed] at processes
      cases processes
    | ok pair =>
      obtain ⟨outcome, last⟩ := pair
      simp only [processed] at processes
      obtain ⟨emits, kept⟩ := keeps.process own processed
      cases behind : (last.processAll compilation markers rest).1 with
      | error error =>
        rw [behind] at processes
        cases processes
      | ok more =>
        rw [behind] at processes
        cases processes
        have all := induction kept others behind
        intro emission among
        rw [List.filterMap_cons] at among
        cases found : outcome.emission? with
        | none =>
          rw [found] at among
          exact all emission among
        | some first =>
          rw [found] at among
          rcases List.mem_cons.mp among with rfl | among
          · exact emits _ found
          · exact all emission among

/-- A property of all fragments that a pass could generate is one of the fragments in its output. -/
theorem Keeps.pass {output : Output} (keeps : cache.Keeps holds)
    (generates : ∀ markers, ∀ candidate ∈ Candidate.select compilation, ∀ accepted,
      validate compilation markers candidate = .accepted accepted →
      ∀ fragment, (candidate.blueprint accepted).fragment = .ok fragment → holds fragment)
    (passes : (cache.pass compilation).1 = .ok output) :
    ∃ results, output = .ofOutcomes results ∧
      ∀ emission ∈ results.filterMap fun result => result.2.emission?, holds emission.fragment := by
  unfold Cache.pass at passes
  cases known : (cache.markersOf compilation).1 with
  | none =>
    simp only [known] at passes
    cases passes
    refine ⟨_, rfl, ?_⟩
    intro emission among
    obtain ⟨result, resultAmong, emits⟩ := List.mem_filterMap.mp among
    obtain ⟨candidate, -, rfl⟩ := List.mem_map.mp resultAmong
    cases emits
  | some markers =>
    simp only [known] at passes
    have kept : (cache.markersOf compilation).2.Keeps holds := by
      rw [Keeps, fragments_markersOf]
      exact keeps
    cases processed : ((cache.markersOf compilation).2.processAll compilation markers
        (Candidate.select compilation)).1 with
    | error error =>
      rw [processed] at passes
      cases passes
    | ok results =>
      rw [processed] at passes
      cases passes
      exact ⟨results, rfl, kept.processAll (generates markers) processed⟩

end Cache

namespace Output

variable {results : List (Candidate × Outcome)}

theorem perm_fragments : List.Perm (ofOutcomes results).fragments
    ((results.filterMap fun result => result.2.emission?).map Emission.fragment) := by
  rw [ofOutcomes_eq]
  exact List.mergeSort_perm _ _

/-- The fragments of the structs that are reported as generated. -/
def reportedFragments (output : Output) : List Fragment :=
  (output.reports.filterMap fun report => report.outcome.emission?).map Emission.fragment

theorem perm_reportedFragments :
    List.Perm (ofOutcomes results).fragments (ofOutcomes results).reportedFragments := by
  have reported : (ofOutcomes results).reportedFragments =
      (results.filterMap fun result => result.2.emission?).map Emission.fragment := by
    rw [reportedFragments, ofOutcomes, List.filterMap_map]
    rfl
  rw [reported]
  exact perm_fragments

/-- The index of an output includes the files of its fragments. -/
theorem index_eq : ∃ names, (ofOutcomes results).index = indexFor names ∧
    List.Perm names ((ofOutcomes results).fragments.map Fragment.fileName) := by
  refine ⟨_, ?_, (perm_fragments.map _).symm⟩
  rw [ofOutcomes_eq]

end Output

/-- A file is named like the fragment of a struct. -/
def IsFragmentFile (name : String) : Prop :=
  ∃ path, path ≠ [] ∧ isIdentifierPath path = true ∧ name = ".".intercalate path ++ fragmentSuffix

theorem fragments_of_generate [Digest] {units : List SourceUnit} {externalCrates : List ExternalCrate}
    {output : Output} (done : generate (.ofUnits units externalCrates) = .ok output) :
    (∀ fragment ∈ output.fragments, IsFragmentFile fragment.fileName) ∧
      List.Perm output.fragments output.reportedFragments ∧
      ∃ names, output.index = indexFor names ∧
        List.Perm names (output.fragments.map Fragment.fileName) := by
  have empty : Cache.empty.Keeps fun fragment => IsFragmentFile fragment.fileName := by
    intro entry held
    cases held
  obtain ⟨results, rfl, all⟩ := empty.pass (fun markers candidate selected accepted validated
      fragment generates => by
    refine ⟨candidate.path, by simp [Candidate.path],
      isIdentifierPath_of_accepted selected validated, ?_⟩
    rw [fileName_of_fragment generates, fileName_blueprint]) done
  refine ⟨?_, Output.perm_reportedFragments, Output.index_eq⟩
  intro fragment among
  obtain ⟨emission, emitted, rfl⟩ := List.mem_map.mp (Output.perm_fragments.mem_iff.mp among)
  exact all emission emitted

/-! ## Generated structs -/

/-- The paths of the structs that a fragment is generated for. -/
def Output.generatedPaths (output : Output) : List String :=
  (output.reports.filter fun report => report.outcome.isGenerated).map Report.typePath

def fragmentFile (path : List String) : String := ".".intercalate path ++ fragmentSuffix

theorem fragmentFile_injective {first second : List String} (notEmpty : first ≠ [])
    (notEmpty' : second ≠ []) (inFirst : isIdentifierPath first = true)
    (inSecond : isIdentifierPath second = true) (same : fragmentFile first = fragmentFile second) :
    first = second := by
  have sameLetters := congrArg String.toList same
  rw [fragmentFile, fragmentFile, String.toList_append, String.toList_append] at sameLetters
  have sameNames := String.toList_inj.mp (List.append_cancel_right sameLetters)
  have dot : ".".toList = '.' :: [] := rfl
  exact intercalate_injective dot (by decide) notEmpty notEmpty' inFirst inSecond sameNames

theorem generatedPaths_uncached {output : Output} :
    output.uncached.generatedPaths = output.generatedPaths := by
  have same : ∀ report : Report, report.uncached.outcome.isGenerated = report.outcome.isGenerated :=
    fun report => Outcome.isGenerated_uncached _
  simp only [Output.generatedPaths, Output.uncached, List.filter_map, List.map_map,
    Function.comp_def, same]
  rfl

def generatedCandidates (results : List (Candidate × Outcome)) : List Candidate :=
  (results.filter fun result => result.2.isGenerated).map Prod.fst

theorem fileNames_of_results {results : List (Candidate × Outcome)}
    (named : ∀ result ∈ results, ∀ emission, result.2.emission? = some emission →
      emission.fragment.fileName = fragmentFile result.1.path) :
    ((results.filterMap fun result => result.2.emission?).map Emission.fragment).map
        Fragment.fileName =
      (generatedCandidates results).map fun candidate => fragmentFile candidate.path := by
  induction results with
  | nil => rfl
  | cons result rest induction =>
    obtain ⟨own, others⟩ := List.forall_mem_cons.mp named
    have behind := induction others
    rw [generatedCandidates] at behind ⊢
    cases emits : result.2.emission? with
    | none => simp [Outcome.isGenerated, emits, behind]
    | some emission => simp [Outcome.isGenerated, emits, behind, own emission emits]

theorem generatedPaths_ofOutcomes (results : List (Candidate × Outcome)) :
    (Output.ofOutcomes results).generatedPaths =
      (generatedCandidates results).map Candidate.typePath := by
  simp only [Output.generatedPaths, Output.ofOutcomes, generatedCandidates, List.filter_map,
    List.map_map]
  rfl

/-- Where a fragment in a pass without a cache comes from. -/
theorem Candidate.exists_of_emission? [Digest] {compilation : Compilation} {candidate : Candidate}
    {outcome : Outcome} {emission : Emission} (fate : candidate.fate compilation = .ok outcome)
    (emits : outcome.emission? = some emission) :
    ∃ markers accepted, validate compilation markers candidate = .accepted accepted ∧
      (candidate.blueprint accepted).fragment = .ok emission.fragment := by
  rw [Candidate.fate] at fate
  cases known : Markers.of? compilation with
  | none =>
    simp only [known] at fate
    cases fate
    cases emits
  | some markers =>
    simp only [known, Candidate.outcome] at fate
    cases validated : validate compilation markers candidate with
    | accepted accepted =>
      simp only [validated] at fate
      cases generates : (candidate.blueprint accepted).fragment with
      | error error =>
        rw [generates] at fate
        cases fate
      | ok fragment =>
        rw [generates] at fate
        cases fate
        cases emits
        exact ⟨markers, accepted, validated, generates⟩
    | _ =>
      simp only [validated] at fate
      cases fate
      cases emits

/-- A fragment is generated for each struct that is reported as generated, and its file is named
after the struct. -/
theorem paths_of_generate [Digest] {units : List SourceUnit} {externalCrates : List ExternalCrate}
    {output : Output} (frameable : Frameable (.ofUnits units externalCrates))
    (done : generate (.ofUnits units externalCrates) = .ok output) :
    ∃ paths : List (List String), (∀ path ∈ paths, path ≠ [] ∧ isIdentifierPath path = true) ∧
      List.Perm (output.fragments.map Fragment.fileName) (paths.map fragmentFile) ∧
      output.generatedPaths = paths.map "::".intercalate := by
  -- A pass without a cache has the same reports, and each of them is that of its own candidate.
  obtain ⟨results, same, selected, fates⟩ :=
    uncachedPass_eq_ok (uncachedPass_of_generate frameable done)
  have isSelected : ∀ result ∈ results,
      result.1 ∈ Candidate.select (.ofUnits units externalCrates) := by
    intro result among
    rw [← selected]
    exact List.mem_map_of_mem among
  refine ⟨(generatedCandidates results).map Candidate.path, ?_, ?_, ?_⟩
  · intro path among
    obtain ⟨candidate, candidateAmong, rfl⟩ := List.mem_map.mp among
    obtain ⟨result, resultAmong, rfl⟩ := List.mem_map.mp candidateAmong
    obtain ⟨listed, isGenerated⟩ := List.mem_filter.mp resultAmong
    obtain ⟨emission, emits⟩ := Option.isSome_iff_exists.mp isGenerated
    obtain ⟨markers, accepted, validated, -⟩ :=
      Candidate.exists_of_emission? (fates result listed) emits
    exact ⟨by simp [Candidate.path],
      isIdentifierPath_of_accepted (isSelected result listed) validated⟩
  · have sameFragments : output.fragments = (Output.ofOutcomes results).fragments :=
      congrArg (fun other => other.fragments) same
    have named : ∀ result ∈ results, ∀ emission, result.2.emission? = some emission →
        emission.fragment.fileName = fragmentFile result.1.path := by
      intro result listed emission emits
      obtain ⟨markers, accepted, -, generates⟩ :=
        Candidate.exists_of_emission? (fates result listed) emits
      rw [fileName_of_fragment generates, fileName_blueprint,
        fragmentFile]
    rw [sameFragments, List.map_map]
    exact (Output.perm_fragments.map _).trans (.of_eq (fileNames_of_results named))
  · rw [List.map_map, ← generatedPaths_uncached, same]
    exact generatedPaths_ofOutcomes results

end Wireform.Generation
