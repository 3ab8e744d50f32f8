import Mathlib.Data.List.Perm.Basic
import Mathlib.Data.List.Sort
import Wireform.Proofs.Generation.FileNames
import Wireform.Proofs.Generation.Inclusion
import Wireform.Proofs.Generation.Independence
import Wireform.Proofs.Names.UnitOrder

/-! # Order of units

Where names do not depend on the order of the units, it makes no difference to a pass: the
candidates come in another order, each of them has the same fate, and what is generated is sorted. -/

namespace Wireform.Generation

open Wireform.Names Wireform.Syntax Wireform.Text

/-! ## Sorted texts -/

theorem sortedOnce_eq_of_perm {texts others : List String} (perm : List.Perm texts others) :
    sortedOnce texts = sortedOnce others := by
  apply List.Pairwise.eq_of_mem_iff (pairwise_sortedOnce texts) (pairwise_sortedOnce others)
  intro text
  rw [mem_sortedOnce, mem_sortedOnce, perm.mem_iff]

namespace Output

theorem precedes_iff {first second : Fragment} : precedes first second = true ↔
    first.fileName < second.fileName ∨
      first.fileName = second.fileName ∧ first.code ≤ second.code := by
  simp [precedes]

theorem precedes_trans (first second third : Fragment) (before : precedes first second = true)
    (behind : precedes second third = true) : precedes first third = true := by
  rw [precedes_iff] at before behind ⊢
  rcases before with less | ⟨same, least⟩
  · rcases behind with lesser | ⟨same, _⟩
    · exact .inl (String.lt_trans less lesser)
    · exact .inl (same ▸ less)
  · rcases behind with lesser | ⟨again, most⟩
    · exact .inl (same ▸ lesser)
    · exact .inr ⟨same.trans again, String.le_trans least most⟩

theorem precedes_total (first second : Fragment) :
    (precedes first second || precedes second first) = true := by
  rw [Bool.or_eq_true, precedes_iff, precedes_iff]
  by_cases less : first.fileName < second.fileName
  · exact .inl (.inl less)
  · by_cases greater : second.fileName < first.fileName
    · exact .inr (.inl greater)
    · have same := String.le_antisymm (String.not_lt.mp greater) (String.not_lt.mp less)
      rcases String.le_total first.code second.code with least | most
      · exact .inl (.inr ⟨same, least⟩)
      · exact .inr (.inr ⟨same.symm, most⟩)

theorem precedes_antisymm {first second : Fragment} (before : precedes first second = true)
    (behind : precedes second first = true) : first = second := by
  rw [precedes_iff] at before behind
  have sameName : first.fileName = second.fileName := by
    rcases before with less | ⟨same, _⟩
    · rcases behind with greater | ⟨same, _⟩
      · exact absurd (String.lt_trans less greater) (String.lt_irrefl _)
      · exact same.symm
    · exact same
  have notLess : ¬first.fileName < second.fileName := sameName ▸ String.lt_irrefl _
  have notGreater : ¬second.fileName < first.fileName := sameName ▸ String.lt_irrefl _
  have least := (before.resolve_left notLess).2
  have most := (behind.resolve_left notGreater).2
  have sameCode := String.le_antisymm least most
  cases first
  cases second
  rw [Fragment.mk.injEq]
  exact ⟨sameName, sameCode⟩

variable {results others : List (Candidate × Outcome)}
  (perm : List.Perm (ofOutcomes results).fragments (ofOutcomes others).fragments)
include perm

theorem fragments_eq_of_perm : (ofOutcomes results).fragments = (ofOutcomes others).fragments :=
  perm.eq_of_pairwise (fun _ _ _ _ => precedes_antisymm)
    (List.pairwise_mergeSort precedes_trans precedes_total _)
    (List.pairwise_mergeSort precedes_trans precedes_total _)

theorem index_eq_of_perm : (ofOutcomes results).index = (ofOutcomes others).index := by
  have included (results : List (Candidate × Outcome)) : ∃ names,
      (ofOutcomes results).index = indexFor names ∧
        List.Perm names ((ofOutcomes results).fragments.map Fragment.fileName) := index_eq
  rcases included results with ⟨names, index, named⟩
  rcases included others with ⟨otherNames, otherIndex, otherNamed⟩
  have sameNames : List.Perm names otherNames :=
    named.trans ((perm.map _).trans otherNamed.symm)
  rw [index, otherIndex, indexFor, indexFor, sortedOnce_eq_of_perm sameNames]

end Output

/-! ## Passes that go through -/

theorem Candidate.exists_outcomes [Digest] {compilation : Compilation} {markers : Markers}
    {candidates : List Candidate}
    (each : ∀ candidate ∈ candidates, ∃ outcome, candidate.outcome compilation markers = .ok outcome) :
    ∃ results, Candidate.outcomes compilation markers candidates = .ok results := by
  induction candidates with
  | nil => exact ⟨[], rfl⟩
  | cons candidate rest induction =>
    rcases List.forall_mem_cons.mp each with ⟨⟨outcome, own⟩, others⟩
    rcases induction others with ⟨results, behind⟩
    refine ⟨(candidate, outcome) :: results, ?_⟩
    rw [Candidate.outcomes, own, behind]
    rfl

/-- A pass goes through exactly if no candidate's fate is a failure. -/
theorem exists_generate_iff [Digest] {compilation : Compilation}
    (frameable : Frameable compilation) :
    (∃ output, generate compilation = .ok output) ↔
      ∀ candidate ∈ Candidate.select compilation, ∃ outcome,
        candidate.fate compilation = .ok outcome := by
  constructor
  · rintro ⟨output, done⟩ candidate selected
    rcases uncachedPass_eq_ok (uncachedPass_of_generate frameable done) with
      ⟨results, _, same, fates⟩
    rw [← same] at selected
    rcases List.mem_map.mp selected with ⟨result, among, rfl⟩
    exact ⟨result.2, fates result among⟩
  · intro each
    -- Without a cache the candidates do not depend on one another.
    have succeeds : ∃ output, uncachedPass compilation = .ok output := by
      unfold Candidate.fate at each
      unfold uncachedPass
      cases known : Markers.of? compilation with
      | none => exact ⟨_, rfl⟩
      | some markers =>
        rw [known] at each
        rcases Candidate.exists_outcomes each with ⟨results, computed⟩
        dsimp only
        rw [computed]
        exact ⟨.ofOutcomes results, rfl⟩
    rcases succeeds with ⟨output, passes⟩
    have alone := (Cache.sound_empty.pass frameable).1
    rw [passes] at alone
    cases done : generate compilation with
    | error error =>
      rw [← generate, done] at alone
      cases alone
    | ok output => exact ⟨output, rfl⟩

theorem exists_ofOutcomes_of_generate [Digest] {compilation : Compilation} {output : Output}
    (done : generate compilation = .ok output) : ∃ results, output = .ofOutcomes results := by
  have empty : Cache.empty.Keeps fun _ => True := fun _ _ => trivial
  rcases empty.pass (fun _ _ _ _ _ _ _ => trivial) done with ⟨results, same, _⟩
  exact ⟨results, same⟩

/-! ## Candidates in another order -/

/-- What a report says of a struct, wherever its fragment came from. -/
structure Summary where
  typePath : String
  location : Location
  status : String
  /-- The number of fields that are serialized. -/
  serialized : Nat
  equality? : Option Bool
  deriving DecidableEq

def Report.summary (report : Report) : Summary where
  typePath := report.typePath
  location := report.location
  status := report.outcome.statusText
  serialized := report.outcome.serialized
  equality? := report.outcome.equality?

/-- Both passes fail, or both generate the same files and report the same in some order. -/
inductive SameGeneration : Except FragmentError Output → Except FragmentError Output → Prop where
  | failed (error other : FragmentError) : SameGeneration (.error error) (.error other)
  | succeeded {output other : Output} (files : output.files = other.files)
      (index : output.index = other.index)
      (reports : List.Perm (output.reports.map Report.summary) (other.reports.map Report.summary)) :
      SameGeneration (.ok output) (.ok other)

theorem SameReport.summary {report other : Report} (same : SameReport report other)
    (location : report.location = other.location) : report.summary = other.summary := by
  rw [Report.summary, Report.summary, same.typePath, location, same.status, same.equality,
    Outcome.serialized, Outcome.serialized, same.fields]

section Reordered

variable {left right : Compilation} (outlook : left.SameOutlook right)
  (selected : List.Perm (Candidate.select left) (Candidate.select right))

include outlook in
theorem exists_accepted_of_sameOutlook {markers : Markers} {candidate : Candidate}
    {accepted : Accepted} (validated : validate right markers candidate = .accepted accepted) :
    ∃ other, validate left markers candidate = .accepted other ∧
      (candidate.blueprint other).imprint = (candidate.blueprint accepted).imprint := by
  have alike : (validate left markers candidate).placeless =
      (validate right markers candidate).placeless := validate_congr outlook (.refl candidate)
  rw [validated] at alike
  cases found : validate left markers candidate with
  | accepted other =>
    rw [found] at alike
    exact ⟨other, rfl, imprint_congr (.refl candidate) (Validation.accepted.inj alike)⟩
  | unmarked =>
    rw [found] at alike
    cases alike
  | rejected diagnostic =>
    rw [found] at alike
    cases alike
  | empty diagnostics =>
    rw [found] at alike
    cases alike

include outlook selected in
theorem Frameable.of_sameOutlook (frameable : Frameable left) : Frameable right where
  crates := outlook.crates ▸ frameable.crates
  blueprints := by
    intro blueprint among
    cases known : Markers.of? right with
    | none =>
      rw [blueprints_of_inert known] at among
      cases among
    | some markers =>
      rw [blueprints_of_markers known] at among
      -- Each of its blueprints is one of the other compilation.
      rcases List.mem_filterMap.mp among with ⟨candidate, candidateAmong, generates⟩
      unfold Candidate.blueprint? at generates
      cases validated : validate right markers candidate with
      | accepted accepted =>
        rw [validated] at generates
        cases generates
        rcases exists_accepted_of_sameOutlook outlook validated with ⟨other, accepts, same⟩
        rw [Fingerprint.BlueprintFits, ← same]
        rw [← Markers.of?_congr outlook.crates] at known
        exact (frameable.accepted known (selected.mem_iff.mpr candidateAmong) accepts).fits
      | _ =>
        rw [validated] at generates
        cases generates

variable [Digest]

include outlook selected in
theorem exists_generate_of_sameOutlook (frameable : Frameable left) {output : Output}
    (done : generate left = .ok output) : ∃ other, generate right = .ok other := by
  rw [exists_generate_iff (frameable.of_sameOutlook outlook selected)]
  intro candidate among
  have fates := (exists_generate_iff frameable).mp ⟨output, done⟩
  rcases fates candidate (selected.mem_iff.mpr among) with ⟨outcome, fate⟩
  have same : (candidate.fate left).map Outcome.placeless =
      (candidate.fate right).map Outcome.placeless :=
    fate_congr outlook (.refl candidate) (Candidate.legible_declaration among)
      (Candidate.legible_declaration among)
  rw [fate] at same
  cases found : candidate.fate right with
  | error error =>
    rw [found] at same
    cases same
  | ok other => exact ⟨other, rfl⟩

include outlook in
theorem forall₂_same_of_reports {candidates : List Candidate}
    (all : ∀ candidate ∈ candidates, legible candidate.declaration) {reports others : List Report}
    (ofLeft : List.Forall₂ (Reports left) candidates reports)
    (ofRight : List.Forall₂ (Reports right) candidates others) :
    List.Forall₂ (fun report other => SameReport report other ∧ report.location = other.location)
      reports others := by
  induction ofLeft generalizing others with
  | nil =>
    cases ofRight
    exact .nil
  | @cons candidate report candidates reports told rest induction =>
    cases ofRight with
    | cons retold ofRight =>
      obtain ⟨own, behind⟩ := List.forall_mem_cons.mp all
      refine .cons ⟨?_, ?_⟩ (induction behind ofRight)
      · exact told.same outlook (.refl candidate) own own retold
      · rw [told.location, retold.location]

omit [Digest] in
theorem reportedFragments_eq {output : Output} {reports : List Report}
    (same : List.Forall₂ (fun report other =>
      SameReport report other ∧ report.location = other.location) output.reports reports) :
    output.reportedFragments =
      reports.filterMap fun report => report.outcome.emission?.map Emission.fragment := by
  have images := map_eq_of_forall₂
    (f := fun report : Report => report.outcome.emission?.map Emission.fragment)
    (g := fun report : Report => report.outcome.emission?.map Emission.fragment)
    (fun report other alike => alike.1.fragment) same
  have chosen := congrArg (List.filterMap id) images
  rw [List.filterMap_map, List.filterMap_map] at chosen
  rw [Output.reportedFragments, List.map_filterMap]
  exact chosen

include outlook selected in
/-- A pass over the same candidates in another order, with the same outlook. -/
theorem sameGeneration_of_sameOutlook (frameable : Frameable left) :
    SameGeneration (generate left) (generate right) := by
  have reframeable := frameable.of_sameOutlook outlook selected
  cases done : generate left with
  | error error =>
    cases redone : generate right with
    | error other => exact .failed error other
    | ok other =>
      rcases exists_generate_of_sameOutlook outlook.symm selected.symm reframeable redone with
        ⟨output, succeeds⟩
      rw [done] at succeeds
      cases succeeds
  | ok output =>
    rcases exists_generate_of_sameOutlook outlook selected frameable done with ⟨other, redone⟩
    rw [redone]
    -- The reports on the right, in the order of the candidates on the left.
    rcases List.perm_comp_forall₂ selected (reports_of_generate reframeable redone) with
      ⟨reports, told, reordered⟩
    have same := forall₂_same_of_reports outlook
      (fun _ => Candidate.legible_declaration) (reports_of_generate frameable done) told
    have summaries : output.reports.map Report.summary = reports.map Report.summary :=
      map_eq_of_forall₂ (fun report other alike => alike.1.summary alike.2) same
    rcases exists_ofOutcomes_of_generate done with ⟨results, rfl⟩
    rcases exists_ofOutcomes_of_generate redone with ⟨others, rfl⟩
    have fragments : List.Perm (Output.ofOutcomes results).fragments
        (Output.ofOutcomes others).fragments := by
      apply Output.perm_reportedFragments.trans
      apply List.Perm.trans _ Output.perm_reportedFragments.symm
      rw [reportedFragments_eq same, Output.reportedFragments, List.map_filterMap]
      exact reordered.filterMap _
    have sameFragments := Output.fragments_eq_of_perm fragments
    have sameIndex := Output.index_eq_of_perm fragments
    refine .succeeded ?_ sameIndex ?_
    · rw [Output.files, Output.files, sameFragments, sameIndex]
    · rw [summaries]
      exact reordered.map _

end Reordered

/-- In whatever order the units of a crate come, if no module has two bodies and no item the name
of a module beside it, a pass fails alike or generates the same files and reports the same. -/
theorem generate_perm [Digest] {left right : List SourceUnit} {externalCrates : List ExternalCrate}
    (perm : List.Perm left right) (single : (left.flatMap SourceUnit.bodies).Nodup)
    (apart : (Compilation.ofUnits left externalCrates).declarations.NamesApart)
    (frameable : Frameable (.ofUnits left externalCrates)) :
    SameGeneration (generate (.ofUnits left externalCrates))
      (generate (.ofUnits right externalCrates)) :=
  sameGeneration_of_sameOutlook (Compilation.sameOutlook_of_perm perm single apart)
    (perm.flatMap_right _) frameable

/-- A struct with a field of a type from another file, and the two files in both orders. -/
theorem generate_perm_swapped :
    let root := (SourceUnit.parse? "src/lib.rs" ""
      "pub mod a; #[autoser::auto_serialize] pub struct Outer { pub inner: a::Inner }").toList
    let inner := (SourceUnit.parse? "src/a.rs" "a"
      "use autoser as ser; #[ser::auto_serialize(false)] pub struct Inner { pub x: u8 }").toList
    ∃ output other, generate (.ofUnits (root ++ inner) [.runtime "autoser"]) = .ok output ∧
      generate (.ofUnits (inner ++ root) [.runtime "autoser"]) = .ok other ∧
      output.reports.map (fun report => (report.typePath, report.outcome.isGenerated)) =
        [("Outer", true), ("a::Inner", true)] ∧
      other.reports.map (fun report => (report.typePath, report.outcome.isGenerated)) =
        [("a::Inner", true), ("Outer", true)] ∧
      output.files = other.files ∧ output.index = other.index ∧
      List.Perm (output.reports.map Report.summary) (other.reports.map Report.summary) := by
  intro root inner
  have facts : ((root ++ inner).flatMap SourceUnit.bodies).Nodup ∧
      (Compilation.ofUnits (root ++ inner) [.runtime "autoser"]).declarations.NamesApart ∧
      (∀ external ∈ (Compilation.ofUnits (root ++ inner) [.runtime "autoser"]).crates,
        Fingerprint.CrateFits external) ∧
      (∀ blueprint ∈ blueprints (.ofUnits (root ++ inner) [.runtime "autoser"]),
        Fingerprint.BlueprintFits blueprint) ∧
      (generate (.ofUnits (root ++ inner) [.runtime "autoser"])).toOption.any (fun output =>
        decide (output.reports.map (fun report => (report.typePath, report.outcome.isGenerated)) =
          [("Outer", true), ("a::Inner", true)])) = true ∧
      (generate (.ofUnits (inner ++ root) [.runtime "autoser"])).toOption.any (fun output =>
        decide (output.reports.map (fun report => (report.typePath, report.outcome.isGenerated)) =
          [("a::Inner", true), ("Outer", true)])) = true := by
    have read : _ = root := congrArg Option.toList SourceUnit.parse?_ofList.symm
    clear_value root
    subst read
    have read : _ = inner := congrArg Option.toList SourceUnit.parse?_ofList.symm
    clear_value inner
    subst read
    decide +kernel
  rcases facts with ⟨single, apart, crates, fitting, succeeds, succeedsAgain⟩
  rcases exists_of_toOption succeeds with ⟨output, done, reports⟩
  rcases exists_of_toOption succeedsAgain with ⟨other, redone, otherReports⟩
  have same := generate_perm List.perm_append_comm single apart ⟨crates, fitting⟩
  rw [done, redone] at same
  cases same with
  | succeeded files index summaries =>
    exact ⟨output, other, done, redone, of_decide_eq_true reports, of_decide_eq_true otherReports,
      files, index, summaries⟩

end Wireform.Generation
