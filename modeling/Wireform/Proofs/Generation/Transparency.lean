import Mathlib.Data.List.Forall2
import Wireform.Proofs.Generation.Framing
import Wireform.Proofs.Generation.Imprints
import Wireform.Proofs.Generation.Outcomes

/-! # Transparency of the cache

What a pass finds in the cache is what it would compute itself. So the passes before it make no
difference, except to which fragments are counted as found. -/

namespace Wireform.Generation

open Wireform.Names Wireform.Syntax

/-! ## Results, wherever they come from -/

def Emission.uncached (emission : Emission) : Emission := { emission with cached := false }

def Outcome.uncached : Outcome → Outcome
  | .generated accepted emission => .generated accepted emission.uncached
  | other => other

def Report.uncached (report : Report) : Report := { report with outcome := report.outcome.uncached }

def Output.uncached (output : Output) : Output :=
  { output with
    reports := output.reports.map Report.uncached
    statistics := { output.statistics with cacheHits := 0 } }

namespace Outcome

variable (outcome : Outcome)

@[simp] theorem diagnostics_uncached : outcome.uncached.diagnostics = outcome.diagnostics := by
  cases outcome <;> rfl

@[simp] theorem emission?_uncached :
    outcome.uncached.emission? = outcome.emission?.map Emission.uncached := by
  cases outcome <;> rfl

@[simp] theorem equality?_uncached : outcome.uncached.equality? = outcome.equality? := by
  cases outcome <;> rfl

@[simp] theorem fields_uncached : outcome.uncached.fields = outcome.fields := by
  cases outcome <;> rfl

@[simp] theorem isUnmarked_uncached : outcome.uncached.isUnmarked = outcome.isUnmarked := by
  cases outcome <;> rfl

@[simp] theorem isRejected_uncached : outcome.uncached.isRejected = outcome.isRejected := by
  cases outcome <;> rfl

@[simp] theorem isEmpty_uncached : outcome.uncached.isEmpty = outcome.isEmpty := by
  cases outcome <;> rfl

@[simp] theorem isGenerated_uncached : outcome.uncached.isGenerated = outcome.isGenerated := by
  cases outcome <;> rfl

end Outcome

/-- The statistics count nothing that depends on the cache but its hits. -/
theorem Statistics.ofOutcomes_uncached (outcomes : List Outcome) :
    Statistics.ofOutcomes (outcomes.map Outcome.uncached) =
      { Statistics.ofOutcomes outcomes with cacheHits := 0 } := by
  simp only [Statistics.ofOutcomes, List.flatMap_map, List.countP_map, List.length_map,
    Function.comp_def, Outcome.diagnostics_uncached, Outcome.fields_uncached,
    Outcome.equality?_uncached, Outcome.isGenerated_uncached, Outcome.isUnmarked_uncached,
    Outcome.isRejected_uncached, Outcome.isEmpty_uncached, Outcome.emission?_uncached,
    Option.any_map]
  simp [Emission.uncached]

namespace Output

/-- Candidates with their outcomes, as these are without a cache. -/
def uncachedResults (results : List (Candidate × Outcome)) : List (Candidate × Outcome) :=
  results.map fun result => (result.1, result.2.uncached)

theorem ofOutcomes_uncached (results : List (Candidate × Outcome)) :
    ofOutcomes (uncachedResults results) = (ofOutcomes results).uncached := by
  have emissions : ((uncachedResults results).filterMap fun result => result.2.emission?).map
      Emission.fragment = (results.filterMap fun result => result.2.emission?).map
      Emission.fragment := by
    simp only [uncachedResults, List.filterMap_map, Function.comp_def, Outcome.emission?_uncached,
      List.map_filterMap, Option.map_map]
    rfl
  have outcomes : (uncachedResults results).map Prod.snd =
      (results.map Prod.snd).map Outcome.uncached := by
    simp only [uncachedResults, List.map_map, Function.comp_def]
  simp only [ofOutcomes_eq, emissions, outcomes, uncached, Statistics.ofOutcomes_uncached,
    List.flatMap_map, Outcome.diagnostics_uncached]
  simp only [uncachedResults, List.map_map]
  rfl

end Output

/-- Two outputs tell the same, except for which fragments came from the cache. -/
structure Output.Agrees (output other : Output) : Prop where
  files : output.files = other.files
  index : output.index = other.index
  diagnostics : output.diagnostics = other.diagnostics
  reports : output.reports.map Report.uncached = other.reports.map Report.uncached
  statistics : { output.statistics with cacheHits := 0 } = { other.statistics with cacheHits := 0 }

theorem Output.agrees_of_uncached {output other : Output} (same : output.uncached = other.uncached) :
    output.Agrees other where
  files := show output.uncached.files = other.uncached.files by rw [same]
  index := show output.uncached.index = other.uncached.index by rw [same]
  diagnostics := show output.uncached.diagnostics = other.uncached.diagnostics by rw [same]
  reports := congrArg reports same
  statistics := congrArg statistics same

/-- Both passes fail with one error, or both succeed and their outputs agree. -/
inductive Agree : Except FragmentError Output → Except FragmentError Output → Prop where
  | failed (error : FragmentError) : Agree (.error error) (.error error)
  | succeeded {output other : Output} : output.Agrees other → Agree (.ok output) (.ok other)

theorem agree_of_uncached {result other : Except FragmentError Output}
    (same : result.map Output.uncached = other.map Output.uncached) : Agree result other := by
  cases result with
  | error error =>
    cases other with
    | error otherError =>
      cases same
      exact .failed error
    | ok => cases same
  | ok output =>
    cases other with
    | error => cases same
    | ok other => exact .succeeded (Output.agrees_of_uncached (Except.ok.inj same))

/-! ## Passes without a cache -/

section Memoized
variable [Digest]

/-- What becomes of a candidate if its fragment is generated anew. -/
def Candidate.outcome (compilation : Compilation) (markers : Markers) (candidate : Candidate) :
    Except FragmentError Outcome :=
  match validate compilation markers candidate with
  | .unmarked => .ok .unmarked
  | .rejected diagnostic => .ok (.rejected diagnostic)
  | .empty diagnostics => .ok (.empty diagnostics)
  | .accepted accepted =>
    let blueprint := candidate.blueprint accepted
    blueprint.fragment.map fun fragment =>
      .generated accepted ⟨fragment, .ofBlueprint blueprint, false⟩

/-- The outcomes of candidates up to the first failure. -/
def Candidate.outcomes (compilation : Compilation) (markers : Markers) :
    List Candidate → Except FragmentError (List (Candidate × Outcome))
  | [] => .ok []
  | candidate :: rest => do
    let outcome ← candidate.outcome compilation markers
    (outcomes compilation markers rest).map ((candidate, outcome) :: ·)

/-- Where no candidate fails, each of them has its outcome. -/
theorem Candidate.outcomes_eq_ok {compilation : Compilation} {markers : Markers}
    {candidates : List Candidate} {results : List (Candidate × Outcome)}
    (done : outcomes compilation markers candidates = .ok results) :
    results.map Prod.fst = candidates ∧
      ∀ result ∈ results, result.1.outcome compilation markers = .ok result.2 := by
  induction candidates generalizing results with
  | nil =>
    cases done
    exact ⟨rfl, List.forall_mem_nil _⟩
  | cons candidate rest induction =>
    rw [outcomes] at done
    cases own : candidate.outcome compilation markers with
    | error error =>
      rw [own] at done
      cases done
    | ok outcome =>
      rw [own] at done
      cases behind : outcomes compilation markers rest with
      | error error =>
        simp only [behind] at done
        cases done
      | ok more =>
        simp only [behind] at done
        cases done
        obtain ⟨same, computed⟩ := induction behind
        exact ⟨congrArg (candidate :: ·) same, List.forall_mem_cons.mpr ⟨own, computed⟩⟩

/-- A pass that keeps nothing. -/
def uncachedPass (compilation : Compilation) : Except FragmentError Output :=
  let candidates := Candidate.select compilation
  match Markers.of? compilation with
  | none => .ok (.ofOutcomes (candidates.map fun candidate => (candidate, .inert)))
  | some markers => (Candidate.outcomes compilation markers candidates).map .ofOutcomes

/-- What becomes of a candidate, if that is no failure: without markers nothing is looked at. -/
def Candidate.fate (compilation : Compilation) (candidate : Candidate) :
    Except FragmentError Outcome :=
  match Markers.of? compilation with
  | none => .ok .inert
  | some markers => candidate.outcome compilation markers

/-- A pass that goes through tells every candidate's fate. -/
theorem uncachedPass_eq_ok {compilation : Compilation} {output : Output}
    (done : uncachedPass compilation = .ok output) :
    ∃ results, output = .ofOutcomes results ∧
      results.map Prod.fst = Candidate.select compilation ∧
      ∀ result ∈ results, result.1.fate compilation = .ok result.2 := by
  unfold uncachedPass at done
  unfold Candidate.fate
  cases known : Markers.of? compilation with
  | none =>
    simp only [known] at done
    cases done
    refine ⟨_, rfl, ?_, ?_⟩
    · rw [List.map_map]
      exact List.map_id _
    · intro result among
      obtain ⟨candidate, -, rfl⟩ := List.mem_map.mp among
      rfl
  | some markers =>
    simp only [known] at done
    cases computed : Candidate.outcomes compilation markers (Candidate.select compilation) with
    | error error =>
      rw [computed] at done
      cases done
    | ok results =>
      rw [computed] at done
      cases done
      obtain ⟨same, computes⟩ := Candidate.outcomes_eq_ok computed
      exact ⟨results, rfl, same, computes⟩

end Memoized

/-! ## Steps of a pass -/

/-- Everything that decides the candidate's fragment, if one is generated. -/
def Candidate.blueprint? (compilation : Compilation) (markers : Markers) (candidate : Candidate) :
    Option Blueprint :=
  match validate compilation markers candidate with
  | .accepted accepted => some (candidate.blueprint accepted)
  | _ => none

namespace Cache

variable [Digest] {cache after : Cache} {compilation : Compilation} {markers : Markers}
  {candidate : Candidate}

theorem fragments_markersOf : (cache.markersOf compilation).2.fragments = cache.fragments := by
  unfold Cache.markersOf
  cases cache.markers with
  | none => rfl
  | some entry =>
    by_cases known : entry.1 = Fingerprint.ofCrates compilation.crates
    · simp only [known, if_true]
    · simp only [known, if_false]
      rfl

/-- A fragment comes from the cache, or it is generated and added. -/
theorem emit_eq_ok {blueprint : Blueprint} {emission : Emission}
    (emits : cache.emit blueprint = .ok (emission, after)) :
    emission.fingerprint = .ofBlueprint blueprint ∧
      (emission.cached = true ∧
          cache.fragment? (.ofBlueprint blueprint) = some emission.fragment ∧ after = cache ∨
        emission.cached = false ∧ cache.fragment? (.ofBlueprint blueprint) = none ∧
          blueprint.fragment = .ok emission.fragment ∧
          after = { cache with
            fragments := cache.fragments ++ [(.ofBlueprint blueprint, emission.fragment)] }) := by
  unfold Cache.emit at emits
  cases held : cache.fragment? (.ofBlueprint blueprint) with
  | some fragment =>
    simp only [held] at emits
    cases emits
    exact ⟨rfl, .inl ⟨rfl, rfl, rfl⟩⟩
  | none =>
    simp only [held] at emits
    cases generated : blueprint.fragment with
    | error error =>
      rw [generated] at emits
      cases emits
    | ok fragment =>
      rw [generated] at emits
      cases emits
      exact ⟨rfl, .inr ⟨rfl, rfl, rfl, rfl⟩⟩

/-- Only a candidate that is accepted has an emission, and only that changes the cache. -/
theorem process_eq_ok {outcome : Outcome}
    (processes : cache.process compilation markers candidate = .ok (outcome, after)) :
    candidate.blueprint? compilation markers = none ∧ outcome.emission? = none ∧ after = cache ∨
      ∃ accepted emission, validate compilation markers candidate = .accepted accepted ∧
        outcome = .generated accepted emission ∧
        cache.emit (candidate.blueprint accepted) = .ok (emission, after) := by
  unfold Cache.process at processes
  unfold Candidate.blueprint?
  cases validated : validate compilation markers candidate with
  | accepted accepted =>
    simp only [validated] at processes
    cases emits : cache.emit (candidate.blueprint accepted) with
    | error error =>
      rw [emits] at processes
      cases processes
    | ok emitted =>
      rcases emitted with ⟨emission, last⟩
      rw [emits] at processes
      cases processes
      exact .inr ⟨accepted, emission, rfl, rfl, emits⟩
  | _ =>
    simp only [validated] at processes
    cases processes
    exact .inl ⟨rfl, rfl, rfl⟩

end Cache

/-! ## What a cache may hold -/

def blueprints (compilation : Compilation) : List Blueprint :=
  match Markers.of? compilation with
  | none => []
  | some markers =>
    (Candidate.select compilation).filterMap fun candidate =>
      match validate compilation markers candidate with
      | .accepted accepted => some (candidate.blueprint accepted)
      | _ => none

theorem blueprints_of_markers {compilation : Compilation} {markers : Markers}
    (known : Markers.of? compilation = some markers) :
    blueprints compilation =
      (Candidate.select compilation).filterMap (Candidate.blueprint? compilation markers) := by
  rw [blueprints, known]
  rfl

theorem blueprints_of_inert {compilation : Compilation} (inert : Markers.of? compilation = none) :
    blueprints compilation = [] := by
  rw [blueprints, inert]

/-- All that a pass fingerprints can be framed. -/
structure Frameable (compilation : Compilation) : Prop where
  crates : ∀ external ∈ compilation.crates, Fingerprint.CrateFits external
  blueprints : ∀ blueprint ∈ blueprints compilation, Fingerprint.BlueprintFits blueprint

/-- A blueprint that its fingerprint tells apart: the blueprint can be framed, and its text can be
read back. -/
structure Blueprint.Told (blueprint : Blueprint) : Prop where
  fits : Fingerprint.BlueprintFits blueprint
  legible : legible blueprint

theorem Frameable.told {compilation : Compilation} (frameable : Frameable compilation)
    {blueprint : Blueprint} (among : blueprint ∈ Generation.blueprints compilation) :
    blueprint.Told where
  fits := frameable.blueprints blueprint among
  legible := by
    unfold Generation.blueprints at among
    cases known : Markers.of? compilation with
    | none => simp [known] at among
    | some markers =>
      simp only [known] at among
      obtain ⟨candidate, selected, generates⟩ := List.mem_filterMap.mp among
      split at generates
      · cases generates
        exact Candidate.legible_blueprint (Candidate.legible_declaration selected) _
      · cases generates

theorem Frameable.accepted {compilation : Compilation} (frameable : Frameable compilation)
    {markers : Markers} (known : Markers.of? compilation = some markers) {candidate : Candidate}
    (selected : candidate ∈ Candidate.select compilation) {accepted : Accepted}
    (validated : validate compilation markers candidate = .accepted accepted) :
    (candidate.blueprint accepted).Told := by
  apply frameable.told
  rw [Generation.blueprints, known]
  exact List.mem_filterMap.mpr ⟨candidate, selected, by rw [validated]⟩

theorem Markers.of?_congr {compilation other : Compilation}
    (same : compilation.crates = other.crates) : Markers.of? compilation = Markers.of? other := by
  simp only [Markers.of?, Compilation.externalSymbol?, same]

section Memoized
variable [Digest]

theorem Blueprint.Told.fragment_eq {blueprint other : Blueprint} (told : blueprint.Told)
    (otherTold : other.Told)
    (alike : Fingerprint.ofBlueprint blueprint = Fingerprint.ofBlueprint other) :
    blueprint.fragment = other.fragment :=
  Blueprint.fragment_congr told.legible otherTold.legible
    (Fingerprint.imprint_eq_of_ofBlueprint told.fits otherTold.fits alike)

namespace Cache

/-- Whatever has the fingerprint of something that the cache holds would yield the same again. -/
structure Sound (cache : Cache) : Prop where
  markers : ∀ fingerprint markers, cache.markers = some (fingerprint, markers) →
    ∀ compilation, Frameable compilation → Fingerprint.ofCrates compilation.crates = fingerprint →
      Markers.of? compilation = markers
  fragments : ∀ entry ∈ cache.fragments, ∀ blueprint : Blueprint, blueprint.Told →
    Fingerprint.ofBlueprint blueprint = entry.1 → blueprint.fragment = .ok entry.2

theorem sound_empty : empty.Sound where
  markers _ _ held := by cases held
  fragments _ held := by cases held

variable {cache : Cache} {compilation : Compilation}

theorem Sound.renewed (sound : cache.Sound) (frameable : Frameable compilation) :
    Sound (markersOf.renewed cache compilation (.ofCrates compilation.crates)).2 where
  markers fingerprint markers held other otherFrameable alike := by
    cases held
    exact Markers.of?_congr
      (Fingerprint.crates_eq_of_ofCrates otherFrameable.crates frameable.crates alike)
  fragments := sound.fragments

/-- Markers from the cache are the compilation's own. -/
theorem Sound.markersOf (sound : cache.Sound) (frameable : Frameable compilation) :
    (cache.markersOf compilation).1 = Markers.of? compilation ∧
      (cache.markersOf compilation).2.Sound := by
  unfold Cache.markersOf
  cases held : cache.markers with
  | none => exact ⟨rfl, sound.renewed frameable⟩
  | some entry =>
    rcases entry with ⟨known, markers⟩
    by_cases alike : known = Fingerprint.ofCrates compilation.crates
    · simp only [alike, if_true]
      exact ⟨(sound.markers known markers held compilation frameable alike.symm).symm, sound⟩
    · simp only [alike, if_false]
      exact ⟨rfl, sound.renewed frameable⟩

/-- A cache stays sound if a fragment is added under its blueprint's fingerprint. -/
theorem Sound.add (sound : cache.Sound) {blueprint : Blueprint} {fragment : Fragment}
    (told : blueprint.Told) (generates : blueprint.fragment = .ok fragment) :
    Sound { cache with
      fragments := cache.fragments ++ [(Fingerprint.ofBlueprint blueprint, fragment)] } where
  markers := sound.markers
  fragments entry held other otherTold alike := by
    rcases List.mem_append.mp held with old | new
    · exact sound.fragments entry old other otherTold alike
    · rw [List.mem_singleton] at new
      rw [new] at alike ⊢
      rw [otherTold.fragment_eq told alike]
      exact generates

/-- An emission is what the blueprint generates, or fails as that does. -/
theorem Sound.emit (sound : cache.Sound) {blueprint : Blueprint}
    (told : blueprint.Told) :
    (∃ error, blueprint.fragment = .error error ∧ cache.emit blueprint = .error error) ∨
      ∃ fragment cached after, blueprint.fragment = .ok fragment ∧
        cache.emit blueprint = .ok (⟨fragment, .ofBlueprint blueprint, cached⟩, after) ∧
        after.Sound := by
  cases held : cache.fragment? (.ofBlueprint blueprint) with
  | some fragment =>
    right
    rcases Option.map_eq_some_iff.mp held with ⟨entry, found, rfl⟩
    have alike : entry.1 = .ofBlueprint blueprint := by simpa using List.find?_some found
    have generates := sound.fragments entry (List.mem_of_find?_eq_some found) blueprint told
      alike.symm
    simp only [Cache.emit, held]
    exact ⟨entry.2, true, cache, generates, rfl, sound⟩
  | none =>
    simp only [Cache.emit, held]
    cases generates : blueprint.fragment with
    | error error => exact .inl ⟨error, rfl, rfl⟩
    | ok fragment => exact .inr ⟨fragment, false, _, rfl, rfl, sound.add told generates⟩

theorem Sound.retain (sound : cache.Sound) (live : List Fingerprint) : (cache.retain live).Sound where
  markers := sound.markers
  fragments entry held := sound.fragments entry (List.mem_filter.mp held).1

/-! ## Passes -/

/-- With a sound cache a candidate has the outcome that it has without one. -/
theorem Sound.process (sound : cache.Sound) {markers : Markers} {candidate : Candidate}
    (told : ∀ accepted, validate compilation markers candidate = .accepted accepted →
      (candidate.blueprint accepted).Told) :
    (∃ error, candidate.outcome compilation markers = .error error ∧
        cache.process compilation markers candidate = .error error) ∨
      ∃ outcome after, candidate.outcome compilation markers = .ok outcome.uncached ∧
        cache.process compilation markers candidate = .ok (outcome, after) ∧ after.Sound := by
  unfold Cache.process Candidate.outcome
  cases validated : validate compilation markers candidate with
  | unmarked => exact .inr ⟨_, _, rfl, rfl, sound⟩
  | rejected diagnostic => exact .inr ⟨_, _, rfl, rfl, sound⟩
  | empty diagnostics => exact .inr ⟨_, _, rfl, rfl, sound⟩
  | accepted accepted =>
    rcases sound.emit (told accepted validated) with
      ⟨error, generates, emits⟩ | ⟨fragment, cached, after, generates, emits, afterSound⟩
    · left
      simp only [generates, emits]
      exact ⟨error, rfl, rfl⟩
    · right
      simp only [generates, emits]
      exact ⟨_, after, rfl, rfl, afterSound⟩

/-- With a sound cache the candidates have the outcomes that they have without one, and the cache
is sound afterwards, whether or not there was a failure. -/
theorem Sound.processAll {markers : Markers} (candidates : List Candidate) :
    ∀ {cache : Cache}, cache.Sound →
      (∀ candidate ∈ candidates, ∀ accepted,
        validate compilation markers candidate = .accepted accepted →
        (candidate.blueprint accepted).Told) →
      (cache.processAll compilation markers candidates).1.map Output.uncachedResults =
          Candidate.outcomes compilation markers candidates ∧
        (cache.processAll compilation markers candidates).2.Sound := by
  induction candidates with
  | nil =>
    intro cache sound _
    exact ⟨rfl, sound⟩
  | cons candidate rest induction =>
    intro cache sound told
    rcases sound.process (told candidate List.mem_cons_self) with
      ⟨error, computes, processes⟩ | ⟨outcome, after, computes, processes, afterSound⟩
    · simp only [Cache.processAll, Candidate.outcomes, computes, processes]
      exact ⟨rfl, sound⟩
    · have behind := induction afterSound fun other among => told other (.tail _ among)
      simp only [Cache.processAll, Candidate.outcomes, computes, processes]
      refine ⟨?_, behind.2⟩
      rw [← behind.1]
      cases (after.processAll compilation markers rest).1 <;> rfl

/-- With a sound cache a pass has the result that it has without one, and the cache is sound
afterwards. -/
theorem Sound.pass (sound : cache.Sound) (frameable : Frameable compilation) :
    (cache.pass compilation).1.map Output.uncached = uncachedPass compilation ∧
      (cache.pass compilation).2.Sound := by
  rcases sound.markersOf frameable with ⟨own, marked⟩
  unfold Cache.pass uncachedPass
  rw [← own]
  cases known : (cache.markersOf compilation).1 with
  | none =>
    simp only [known]
    refine ⟨?_, marked⟩
    rw [Except.map, ← Output.ofOutcomes_uncached]
    simp only [Output.uncachedResults, List.map_map]
    rfl
  | some markers =>
    rcases Sound.processAll (Candidate.select compilation) marked
      (fun candidate selected accepted => frameable.accepted (own.symm.trans known) selected) with
      ⟨computes, processed⟩
    simp only [known, ← computes]
    cases processes : ((cache.markersOf compilation).2.processAll compilation markers
        (Candidate.select compilation)).1 with
    | error error => exact ⟨rfl, processed⟩
    | ok results =>
      refine ⟨?_, processed.retain _⟩
      exact congrArg Except.ok (Output.ofOutcomes_uncached results).symm

theorem Sound.passes {compilations : List Compilation} :
    ∀ {cache : Cache}, cache.Sound → (∀ compilation ∈ compilations, Frameable compilation) →
      List.Forall₂ Agree (cache.passes compilations) (compilations.map generate) := by
  induction compilations with
  | nil => exact fun _ _ => .nil
  | cons compilation rest induction =>
    intro cache sound frameable
    have own := frameable compilation List.mem_cons_self
    have agrees : Agree (cache.pass compilation).1 (generate compilation) :=
      agree_of_uncached ((sound.pass own).1.trans (sound_empty.pass own).1.symm)
    exact .cons agrees (induction (sound.pass own).2 fun other among =>
      frameable other (.tail _ among))

end Cache

theorem uncachedPass_of_generate {compilation : Compilation} {output : Output}
    (frameable : Frameable compilation) (done : generate compilation = .ok output) :
    uncachedPass compilation = .ok output.uncached := by
  have alone := (Cache.sound_empty.pass frameable).1
  rw [← generate, done] at alone
  exact alone.symm

omit [Digest] in
theorem exists_of_toOption {error α : Type} {result : Except error α} {holds : α → Bool}
    (known : result.toOption.any holds = true) : ∃ value, result = .ok value ∧ holds value = true := by
  cases result with
  | error error => cases known
  | ok value => exact ⟨value, rfl, known⟩

/-- Passes that share a cache which is empty at first have the results that they have on their
own. -/
theorem passes_agree_generate {compilations : List Compilation}
    (frameable : ∀ compilation ∈ compilations, Frameable compilation) :
    List.Forall₂ Agree (Cache.empty.passes compilations) (compilations.map generate) :=
  Cache.sound_empty.passes frameable

end Memoized

/-- A library with one struct, on its own, without the runtime package and on its own again. -/
theorem passes_agree_generate_point :
    let units := (SourceUnit.parse? "src/lib.rs" ""
      "#[autoser::auto_serialize] pub struct Point { pub x: u32 }").toList
    let marked := Compilation.ofUnits units [.runtime "autoser"]
    let inert := Compilation.ofUnits units []
    blueprints marked ≠ [] ∧
      List.Forall₂ Agree (Cache.empty.passes [marked, inert, marked])
        ([marked, inert, marked].map generate) := by
  intro units marked inert
  have facts : blueprints marked ≠ [] ∧
      (∀ external ∈ marked.crates, Fingerprint.CrateFits external) ∧
      (∀ blueprint ∈ blueprints marked, Fingerprint.BlueprintFits blueprint) ∧
      (∀ external ∈ inert.crates, Fingerprint.CrateFits external) ∧
      ∀ blueprint ∈ blueprints inert, Fingerprint.BlueprintFits blueprint := by
    have read : _ = units := congrArg Option.toList SourceUnit.parse?_ofList.symm
    clear_value units
    subst read
    decide +kernel
  rcases facts with ⟨generates, markedCrates, markedBlueprints, inertCrates, inertBlueprints⟩
  have markedFrameable : Frameable marked := ⟨markedCrates, markedBlueprints⟩
  have inertFrameable : Frameable inert := ⟨inertCrates, inertBlueprints⟩
  refine ⟨generates, passes_agree_generate ?_⟩
  simp only [List.forall_mem_cons]
  exact ⟨markedFrameable, inertFrameable, markedFrameable, List.forall_mem_nil _⟩

end Wireform.Generation
