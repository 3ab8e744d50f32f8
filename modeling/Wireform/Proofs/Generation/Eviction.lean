import Mathlib.Data.List.Dedup
import Mathlib.Data.List.Nodup
import Wireform.Proofs.Generation.Transparency

/-! # Eviction

A pass that has markers leaves one fragment in the cache for each blueprint that it generated, and no
other. A pass that has none looks at no candidate and drops nothing: it leaves what it finds. -/

namespace Wireform.Generation

open Wireform.Names

/-! ## What passes generate -/

/-- The blueprints that the last of the compilations to have markers generates fragments for, and
those of the passes before them all if none has. -/
def lastBlueprints (before : List Blueprint) : List Compilation → List Blueprint
  | [] => before
  | compilation :: rest =>
    lastBlueprints
      (if (Markers.of? compilation).isSome then blueprints compilation else before) rest

theorem lastBlueprints_concat (before : List Blueprint) (compilations : List Compilation)
    (last : Compilation) : lastBlueprints before (compilations ++ [last]) =
      if (Markers.of? last).isSome then blueprints last
      else lastBlueprints before compilations := by
  -- What the passes start from changes with the first of them.
  induction compilations generalizing before with
  | nil => rfl
  | cons compilation rest induction => exact induction _

namespace Cache

def keys (cache : Cache) : List Fingerprint := cache.fragments.map Prod.fst

variable {cache after : Cache} {compilation : Compilation} {markers : Markers}

theorem fragment?_eq_none_iff {fingerprint : Fingerprint} :
    cache.fragment? fingerprint = none ↔ fingerprint ∉ cache.keys := by
  rw [fragment?, Option.map_eq_none_iff, List.find?_eq_none, keys]
  simp only [decide_eq_true_eq]
  constructor
  · intro differ among
    rcases List.mem_map.mp among with ⟨entry, inCache, same⟩
    exact differ entry inCache same
  · intro absent entry inCache same
    exact absent (List.mem_map.mpr ⟨entry, inCache, same⟩)

theorem keys_retain (live : List Fingerprint) :
    (cache.retain live).keys = cache.keys.filter live.contains := by
  rw [keys, retain, keys, List.filter_map]
  rfl

/-! ## What a pass adds -/

/-- The cache has gained these fingerprints and lost none. -/
structure Gains (cache after : Cache) (fingerprints : List Fingerprint) : Prop where
  nodup : cache.keys.Nodup → after.keys.Nodup
  mem_keys : ∀ fingerprint,
    fingerprint ∈ after.keys ↔ fingerprint ∈ cache.keys ∨ fingerprint ∈ fingerprints

theorem Gains.refl (cache : Cache) : cache.Gains cache [] := by
  constructor
  · exact id
  · simp

theorem Gains.trans {last : Cache} {first second : List Fingerprint} (gains : cache.Gains after first)
    (more : after.Gains last second) : cache.Gains last (first ++ second) := by
  constructor
  · exact more.nodup ∘ gains.nodup
  · intro fingerprint
    rw [more.mem_keys, gains.mem_keys, List.mem_append, or_assoc]

section Memoized
variable [Digest]

def afterPasses (cache : Cache) : List Compilation → Cache
  | [] => cache
  | compilation :: rest => (cache.pass compilation).2.afterPasses rest

theorem passes_cons (rest : List Compilation) : cache.passes (compilation :: rest) =
    (cache.pass compilation).1 :: (cache.pass compilation).2.passes rest := rfl

theorem keys_markersOf : (cache.markersOf compilation).2.keys = cache.keys := by
  rw [keys, fragments_markersOf, keys]

theorem gains_emit {blueprint : Blueprint} {emission : Emission}
    (emits : cache.emit blueprint = .ok (emission, after)) :
    cache.Gains after [.ofBlueprint blueprint] ∧
      (emission.cached = true ↔ .ofBlueprint blueprint ∈ cache.keys) := by
  rcases emit_eq_ok emits with ⟨_, ⟨cached, found, rfl⟩ | ⟨generated, missing, _, rfl⟩⟩
  -- What was found adds nothing, for it was there.
  · have held : Fingerprint.ofBlueprint blueprint ∈ after.keys := by
      apply Decidable.not_not.mp
      intro absent
      rw [fragment?_eq_none_iff.mpr absent] at found
      cases found
    refine ⟨⟨id, ?_⟩, iff_of_true cached held⟩
    intro fingerprint
    simp only [List.mem_singleton]
    exact ⟨.inl, fun either => either.elim id fun same => same ▸ held⟩
  -- What was missing is added behind the others, so it is there once.
  · have absent := fragment?_eq_none_iff.mp missing
    have added : keys { cache with
        fragments := cache.fragments ++ [(.ofBlueprint blueprint, emission.fragment)] } =
          cache.keys ++ [.ofBlueprint blueprint] := by
      simp [keys]
    refine ⟨⟨?_, ?_⟩, ?_⟩
    · intro distinct
      rw [added, ← List.concat_eq_append, List.nodup_concat]
      exact ⟨absent, distinct⟩
    · intro fingerprint
      rw [added, List.mem_append]
    · simp [generated, absent]

theorem gains_process {candidate : Candidate} {outcome : Outcome}
    (processes : cache.process compilation markers candidate = .ok (outcome, after)) :
    cache.Gains after
        ((candidate.blueprint? compilation markers).toList.map Fingerprint.ofBlueprint) ∧
      outcome.emission?.map Emission.fingerprint =
        (candidate.blueprint? compilation markers).map Fingerprint.ofBlueprint := by
  rcases process_eq_ok processes with
    ⟨none, nothing, rfl⟩ | ⟨accepted, emission, validated, rfl, emits⟩
  · rw [none, nothing]
    exact ⟨.refl after, rfl⟩
  · rw [Candidate.blueprint?, validated]
    refine ⟨(gains_emit emits).1, ?_⟩
    exact congrArg some (emit_eq_ok emits).1

theorem processAll_cons_eq_ok {candidate : Candidate} {rest : List Candidate}
    {results : List (Candidate × Outcome)}
    (processes : cache.processAll compilation markers (candidate :: rest) = (.ok results, after)) :
    ∃ outcome between others,
      cache.process compilation markers candidate = .ok (outcome, between) ∧
        between.processAll compilation markers rest = (.ok others, after) ∧
        results = (candidate, outcome) :: others := by
  rw [processAll] at processes
  cases own : cache.process compilation markers candidate with
  | error error =>
    rw [own] at processes
    cases processes
  | ok pair =>
    rcases pair with ⟨outcome, between⟩
    rw [own] at processes
    cases behind : between.processAll compilation markers rest with
    | mk others last =>
      cases others with
      | error error =>
        simp only [behind] at processes
        cases processes
      | ok others =>
        simp only [behind] at processes
        cases processes
        exact ⟨outcome, between, others, rfl, behind, rfl⟩

theorem gains_processAll {candidates : List Candidate} {results : List (Candidate × Outcome)}
    (processes : cache.processAll compilation markers candidates = (.ok results, after)) :
    cache.Gains after ((candidates.filterMap (Candidate.blueprint? compilation markers)).map
        Fingerprint.ofBlueprint) ∧
      (results.filterMap fun result => result.2.emission?).map Emission.fingerprint =
        (candidates.filterMap (Candidate.blueprint? compilation markers)).map
          Fingerprint.ofBlueprint := by
  induction candidates generalizing cache results with
  | nil =>
    cases processes
    exact ⟨.refl after, rfl⟩
  | cons candidate rest induction =>
    rcases processAll_cons_eq_ok processes with ⟨outcome, between, others, own, behind, rfl⟩
    rcases gains_process own with ⟨gains, fingerprint⟩
    rcases induction behind with ⟨more, fingerprints⟩
    have both := gains.trans more
    cases found : candidate.blueprint? compilation markers with
    | none =>
      rw [found] at both fingerprint
      have nothing : outcome.emission? = none := Option.map_eq_none_iff.mp fingerprint
      simp only [List.filterMap_cons, found, nothing]
      exact ⟨both, fingerprints⟩
    | some blueprint =>
      rw [found] at both fingerprint
      rcases Option.map_eq_some_iff.mp fingerprint with ⟨emission, emitted, same⟩
      simp only [List.filterMap_cons, found, emitted, List.map_cons, same, fingerprints]
      exact ⟨both, trivial⟩

/-- The candidates in front of one are processed as if they were alone, and it finds the cache as
they leave it. -/
theorem processAll_append_eq_ok {front back : List Candidate} {candidate : Candidate}
    {results : List (Candidate × Outcome)}
    (processes : cache.processAll compilation markers (front ++ candidate :: back) =
      (.ok results, after)) :
    ∃ earlier between outcome last,
      cache.processAll compilation markers front = (.ok earlier, between) ∧
        between.process compilation markers candidate = .ok (outcome, last) ∧
        results[front.length]? = some (candidate, outcome) := by
  induction front generalizing cache results with
  | nil =>
    rcases processAll_cons_eq_ok processes with ⟨outcome, last, others, own, _, rfl⟩
    exact ⟨[], cache, outcome, last, rfl, own, rfl⟩
  | cons first front induction =>
    rcases processAll_cons_eq_ok processes with ⟨firstOutcome, next, others, own, behind, rfl⟩
    rcases induction behind with ⟨earlier, between, outcome, last, before, processed, found⟩
    refine ⟨(first, firstOutcome) :: earlier, between, outcome, last, ?_, processed, found⟩
    rw [processAll, own]
    simp only [before]
    rfl

/-! ## What a pass leaves -/

/-- The cache holds the fragments of these blueprints, each once, and no others. Blueprints that are
printed alike have one fragment. -/
structure Holds (cache : Cache) (blueprints : List Blueprint) : Prop where
  sound : cache.Sound
  told : ∀ blueprint ∈ blueprints, blueprint.Told
  nodup : cache.keys.Nodup
  mem_keys : ∀ fingerprint,
    fingerprint ∈ cache.keys ↔ fingerprint ∈ blueprints.map Fingerprint.ofBlueprint

theorem holds_empty : empty.Holds [] where
  sound := sound_empty
  told := List.forall_mem_nil _
  nodup := List.nodup_nil
  mem_keys _ := Iff.rfl

variable {held : List Blueprint}

theorem Holds.mem_keys_iff (holds : cache.Holds held) {blueprint : Blueprint}
    (fits : Fingerprint.BlueprintFits blueprint) :
    .ofBlueprint blueprint ∈ cache.keys ↔ blueprint.imprint ∈ held.map Blueprint.imprint := by
  rw [holds.mem_keys]
  constructor
  · intro among
    rcases List.mem_map.mp among with ⟨other, inHeld, same⟩
    rw [← Fingerprint.imprint_eq_of_ofBlueprint (holds.told other inHeld).fits fits same]
    exact List.mem_map_of_mem inHeld
  · intro among
    rcases List.mem_map.mp among with ⟨other, inHeld, same⟩
    rw [Fingerprint.ofBlueprint, ← same]
    exact List.mem_map_of_mem inHeld

theorem Holds.perm_keys (holds : cache.Holds held) :
    cache.keys.Perm ((held.map Blueprint.imprint).dedup.map Fingerprint.ofImprint) := by
  have fits : ∀ imprint ∈ held.map Blueprint.imprint, Fingerprint.ImprintFits imprint :=
    List.forall_mem_map.mpr fun blueprint among => (holds.told blueprint among).fits
  have apart : ((held.map Blueprint.imprint).dedup.map Fingerprint.ofImprint).Nodup := by
    apply (List.nodup_map_iff_inj_on (List.nodup_dedup _)).mpr
    intro first firstAmong second secondAmong same
    exact Fingerprint.imprint_eq_of_ofImprint (fits first (List.mem_dedup.mp firstAmong))
      (fits second (List.mem_dedup.mp secondAmong)) same
  apply (List.perm_ext_iff_of_nodup holds.nodup apart).mpr
  intro fingerprint
  simp only [holds.mem_keys, List.mem_map, List.mem_dedup, exists_exists_and_eq_and]
  rfl

/-- What is held for a blueprint is what it generates. -/
theorem Holds.fragment? (holds : cache.Holds held) {blueprint : Blueprint}
    (among : blueprint ∈ held) :
    ∃ fragment, blueprint.fragment = .ok fragment ∧
      cache.fragment? (.ofBlueprint blueprint) = some fragment := by
  have told := holds.told blueprint among
  cases found : cache.fragment? (.ofBlueprint blueprint) with
  | none =>
    exact absurd ((holds.mem_keys_iff told.fits).mpr (List.mem_map_of_mem among))
      (fragment?_eq_none_iff.mp found)
  | some fragment =>
    rcases Option.map_eq_some_iff.mp found with ⟨entry, inCache, same⟩
    have alike : entry.1 = .ofBlueprint blueprint := by simpa using List.find?_some inCache
    have generates := holds.sound.fragments entry (List.mem_of_find?_eq_some inCache) blueprint told
      alike.symm
    exact ⟨fragment, same ▸ generates, rfl⟩

/-- A pass without markers leaves the fragments alone. -/
theorem Holds.pass_inert (holds : cache.Holds held) (frameable : Frameable compilation)
    (inert : Markers.of? compilation = none) : (cache.pass compilation).2.Holds held := by
  -- The pass looks up the markers and returns before it retains anything.
  have same : (cache.pass compilation).2.keys = cache.keys := by
    rw [pass]
    simp only [(holds.sound.markersOf frameable).1, inert]
    exact keys_markersOf
  constructor
  · exact (holds.sound.pass frameable).2
  · exact holds.told
  · rw [same]
    exact holds.nodup
  · rw [same]
    exact holds.mem_keys

theorem pass_eq_ok (sound : cache.Sound) (frameable : Frameable compilation)
    (known : Markers.of? compilation = some markers) {output : Output}
    (done : cache.pass compilation = (.ok output, after)) :
    ∃ results between, (cache.markersOf compilation).2.processAll compilation markers
        (Candidate.select compilation) = (.ok results, between) ∧
      output = .ofOutcomes results ∧
      after = between.retain
        ((results.filterMap fun result => result.2.emission?).map Emission.fingerprint) := by
  rw [pass] at done
  simp only [(sound.markersOf frameable).1, known] at done
  cases processes : (cache.markersOf compilation).2.processAll compilation markers
      (Candidate.select compilation) with
  | mk results between =>
    cases results with
    | error error =>
      simp only [processes] at done
      cases done
    | ok results =>
      simp only [processes] at done
      cases done
      exact ⟨results, between, rfl, rfl, rfl⟩

/-- A pass with markers leaves what it generated, whatever it found. -/
theorem Holds.pass (holds : cache.Holds held) (frameable : Frameable compilation)
    (known : Markers.of? compilation = some markers) {output : Output}
    (done : cache.pass compilation = (.ok output, after)) :
    after.Holds (blueprints compilation) := by
  have sound : after.Sound := by
    have kept := (holds.sound.pass frameable).2
    rw [done] at kept
    exact kept
  rcases pass_eq_ok holds.sound frameable known done with ⟨results, between, processes, -, rfl⟩
  rcases gains_processAll processes with ⟨gains, live⟩
  rw [← blueprints_of_markers known] at gains live
  -- What is live is what was gained, so all that was found and not generated again is dropped.
  rw [live] at sound ⊢
  constructor
  · exact sound
  · exact fun blueprint among => frameable.told among
  · rw [keys_retain]
    apply List.Nodup.filter
    apply gains.nodup
    rw [keys_markersOf]
    exact holds.nodup
  · intro fingerprint
    rw [keys_retain, List.mem_filter, gains.mem_keys, List.contains_iff_mem]
    exact ⟨And.right, fun among => ⟨.inr among, among⟩⟩

theorem Holds.afterPasses {compilations : List Compilation} (holds : cache.Holds held)
    (frameable : ∀ compilation ∈ compilations, Frameable compilation)
    (succeed : ∀ result ∈ cache.passes compilations, result.isOk = true) :
    (cache.afterPasses compilations).Holds (lastBlueprints held compilations) := by
  induction compilations generalizing cache held with
  | nil => exact holds
  | cons compilation rest induction =>
    rcases List.forall_mem_cons.mp frameable with ⟨own, others⟩
    rw [passes_cons] at succeed
    rcases List.forall_mem_cons.mp succeed with ⟨passes, later⟩
    refine induction ?_ others later
    cases known : Markers.of? compilation with
    | none => exact holds.pass_inert own known
    | some markers =>
      cases done : cache.pass compilation with
      | mk result after =>
        cases result with
        | error error =>
          rw [done] at passes
          cases passes
        | ok output => exact holds.pass own known done

/-- A fragment comes from the cache if the pass found it there or generated it before. -/
theorem Holds.cached_iff (holds : cache.Holds held) (frameable : Frameable compilation)
    (known : Markers.of? compilation = some markers) {output : Output}
    (done : cache.pass compilation = (.ok output, after)) {before behind : List Candidate}
    {candidate : Candidate} {blueprint : Blueprint}
    (selected : Candidate.select compilation = before ++ candidate :: behind)
    (generates : candidate.blueprint? compilation markers = some blueprint) :
    ∃ report emission, output.reports[before.length]? = some report ∧
      report.typePath = candidate.typePath ∧ report.outcome.emission? = some emission ∧
      (emission.cached = true ↔ blueprint.imprint ∈ held.map Blueprint.imprint ∨
        blueprint.imprint ∈ (before.filterMap (Candidate.blueprint? compilation markers)).map
          Blueprint.imprint) := by
  have fitting := frameable.blueprints
  rw [blueprints_of_markers known] at fitting
  rcases pass_eq_ok holds.sound frameable known done with ⟨results, last, processes, rfl, -⟩
  rw [selected] at processes fitting
  rcases processAll_append_eq_ok processes with
    ⟨earlier, between, outcome, next, inFront, processed, found⟩
  rcases process_eq_ok processed with ⟨none, -⟩ | ⟨accepted, emission, validated, rfl, emits⟩
  · rw [generates] at none
    cases none
  · rw [Candidate.blueprint?, validated] at generates
    cases generates
    refine ⟨⟨candidate.typePath, candidate.location, .generated accepted emission⟩, emission, ?_,
      rfl, rfl, ?_⟩
    · simp [Output.ofOutcomes, found]
    · have ownFits : Fingerprint.BlueprintFits (candidate.blueprint accepted) := by
        apply fitting
        simp [Candidate.blueprint?, validated]
      -- The cache that the candidate finds has what the pass found and what it has gained since.
      rw [(gains_emit emits).2, (gains_processAll inFront).1.mem_keys, keys_markersOf,
        holds.mem_keys_iff ownFits]
      apply or_congr_right
      constructor
      · intro among
        rcases List.mem_map.mp among with ⟨other, inFront, same⟩
        have otherFits : Fingerprint.BlueprintFits other := by
          apply fitting
          rw [List.filterMap_append]
          exact List.mem_append_left _ inFront
        rw [← Fingerprint.imprint_eq_of_ofBlueprint otherFits ownFits same]
        exact List.mem_map_of_mem inFront
      · intro among
        rcases List.mem_map.mp among with ⟨other, inFront, same⟩
        rw [Fingerprint.ofBlueprint, ← same]
        exact List.mem_map_of_mem inFront

/-- After passes that share a cache which is empty at first, it holds one fragment for each
blueprint of the last pass that had markers, and no others: those of the last pass, unless that had
none and found some. A fragment of the next pass comes from the cache exactly if its blueprint is
among them or the pass has generated it before. Blueprints count as one if they are printed
alike. -/
theorem keys_afterPasses {compilations : List Compilation}
    (frameable : ∀ compilation ∈ compilations, Frameable compilation)
    (succeed : ∀ result ∈ empty.passes compilations, result.isOk = true) :
    let cache := empty.afterPasses compilations
    let held := lastBlueprints [] compilations
    let distinct := (held.map Blueprint.imprint).dedup
    cache.keys.Perm (distinct.map Fingerprint.ofImprint) ∧ cache.size = distinct.length ∧
      (∀ blueprint ∈ held, ∃ fragment, blueprint.fragment = .ok fragment ∧
        cache.fragment? (.ofBlueprint blueprint) = some fragment) ∧
      (∀ earlier last, compilations = earlier ++ [last] →
        (held = blueprints last ↔
          (Markers.of? last).isSome = true ∨ lastBlueprints [] earlier = [])) ∧
      ∀ next markers output after, Frameable next → Markers.of? next = some markers →
        cache.pass next = (.ok output, after) →
        ∀ before candidate behind blueprint,
          Candidate.select next = before ++ candidate :: behind →
          candidate.blueprint? next markers = some blueprint →
          ∃ report emission, output.reports[before.length]? = some report ∧
            report.typePath = candidate.typePath ∧ report.outcome.emission? = some emission ∧
            (emission.cached = true ↔ blueprint.imprint ∈ held.map Blueprint.imprint ∨
              blueprint.imprint ∈ (before.filterMap (Candidate.blueprint? next markers)).map
                Blueprint.imprint) := by
  intro cache held distinct
  have holds : cache.Holds held := holds_empty.afterPasses frameable succeed
  refine ⟨holds.perm_keys, ?_, fun blueprint => holds.fragment?, ?_, ?_⟩
  · have lengths := holds.perm_keys.length_eq
    rw [List.length_map, keys, List.length_map] at lengths
    exact lengths
  · rintro earlier last rfl
    have left : held = _ := lastBlueprints_concat [] earlier last
    rw [left]
    cases known : Markers.of? last with
    | none => simp [blueprints_of_inert known]
    | some markers => simp
  · intro next markers output after nextFrameable known done before candidate behind blueprint
    exact holds.cached_iff nextFrameable known done

end Memoized

/-- A pass without the runtime package between two passes over one struct: its fragment stays, and
the third pass finds it. -/
theorem keys_afterPasses_inert :
    let units := (SourceUnit.parse? "src/lib.rs" ""
      "#[autoser::auto_serialize(false)] pub struct Point { pub x: u32 }").toList
    let marked := Compilation.ofUnits units [.runtime "autoser"]
    let inert := Compilation.ofUnits units []
    let cache := empty.afterPasses [marked, inert]
    (blueprints marked).length = 1 ∧ blueprints inert = [] ∧ cache.size = 1 ∧
      ∃ output after report emission, cache.pass marked = (.ok output, after) ∧
        output.reports[0]? = some report ∧ report.typePath = "Point" ∧
        report.outcome.emission? = some emission ∧ emission.cached = true := by
  intro units marked inert cache
  let markers : Markers := ⟨"::autoser::auto_serialize", "::autoser::non_serialized"⟩
  have facts : Markers.of? marked = some markers ∧ Markers.of? inert = none ∧
      (blueprints marked).length = 1 ∧
      ((Candidate.select marked).map fun candidate =>
        (candidate.typePath, (candidate.blueprint? marked markers).isSome)) = [("Point", true)] ∧
      (∀ result ∈ empty.passes [marked, inert, marked], result.isOk = true) ∧
      (∀ external ∈ marked.crates, Fingerprint.CrateFits external) ∧
      (∀ blueprint ∈ blueprints marked, Fingerprint.BlueprintFits blueprint) ∧
      ∀ external ∈ inert.crates, Fingerprint.CrateFits external := by
    have read : _ = units := congrArg Option.toList SourceUnit.parse?_ofList.symm
    clear_value units
    subst read
    decide +kernel
  rcases facts with ⟨known, unknown, single, selected, succeed, crates, fitting, inertCrates⟩
  have nothing : blueprints inert = [] := blueprints_of_inert unknown
  have frameable : Frameable marked := ⟨crates, fitting⟩
  have inertFrameable : Frameable inert := ⟨inertCrates, by simp [nothing]⟩
  have both : ∀ compilation ∈ [marked, inert], Frameable compilation := by
    simp [frameable, inertFrameable]
  rw [passes_cons, passes_cons, passes_cons] at succeed
  simp only [List.forall_mem_cons] at succeed
  rcases succeed with ⟨first, second, third, -⟩
  have succeed : ∀ result ∈ empty.passes [marked, inert], result.isOk = true := by
    rw [passes_cons, passes_cons]
    simp only [List.forall_mem_cons]
    exact ⟨first, second, List.forall_mem_nil _⟩
  rcases keys_afterPasses both succeed with ⟨-, size, -, -, served⟩
  have held : lastBlueprints [] [marked, inert] = blueprints marked := by
    simp [lastBlueprints, known, unknown]
  rw [held] at size served
  refine ⟨single, nothing, ?_, ?_⟩
  · rcases List.length_eq_one_iff.mp single with ⟨blueprint, generated⟩
    rw [size, generated]
    rfl
  · rcases List.map_eq_singleton_iff.mp selected with ⟨candidate, alone, same⟩
    rcases Prod.mk.inj same with ⟨named, accepted⟩
    rcases Option.isSome_iff_exists.mp accepted with ⟨blueprint, generates⟩
    have among : blueprint ∈ blueprints marked := by
      simp [blueprints_of_markers known, alone, generates]
    cases done : cache.pass marked with
    | mk result after =>
      have passes : (cache.pass marked).1.isOk = true := third
      rw [done] at passes
      cases result with
      | error error => cases passes
      | ok output =>
        rcases served marked markers output after frameable known done [] candidate [] blueprint
          alone generates with ⟨report, emission, found, path, emitted, cached⟩
        exact ⟨output, after, report, emission, rfl, found, path.trans named, emitted,
          cached.mpr (.inl (List.mem_map_of_mem among))⟩

end Cache

end Wireform.Generation
