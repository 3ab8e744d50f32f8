import Mathlib.Algebra.GroupWithZero.Nat
import Mathlib.Data.List.Induction
import Wireform.Proofs.Generation.Eviction
import Wireform.Proofs.Generation.FieldMarkers
import Wireform.Proofs.Generation.FileNames
import Wireform.Proofs.Generation.Independence
import Wireform.Proofs.Generation.Nameability

/-! # Accounts

While a pass goes through its candidates it counts what it sees, lists what is wrong and files the
fragments, one outcome after the other. What it has counted, listed and filed in the end is what its
reports say. -/

namespace Wireform.Generation

open Wireform.Names Wireform.Syntax

/-! ## Outcomes of candidates that were looked at -/

namespace FieldContext

variable (context : FieldContext)

/-- A reference brings one warning, and nothing else brings any. -/
theorem countP_warning_judge (field : Field) (index : Nat) :
    (context.judge field index).2.countP (!·.isError) =
      if (context.judge field index).1.verdict = .reference then 1 else 0 := by
  have renamed : (context.renamedMarkers field (field.member index)).countP (!·.isError) = 0 := by
    rw [renamedMarkers, List.countP_map]
    exact congrFun List.countP_false _
  rw [judge, fieldDiagnostics, List.countP_append, renamed]
  by_cases reference : context.verdict field = .reference
  · rw [if_pos reference, if_pos reference]
    rfl
  · rw [if_neg reference, if_neg reference]
    rfl

theorem countP_warning_judgeAll :
    context.judgeAll.2.countP (!·.isError) =
      context.judgeAll.1.countP (·.verdict = .reference) := by
  rw [judgeAll]
  induction context.candidate.declaration.fields.zipIdx with
  | nil => rfl
  | cons pair rest induction =>
    simp only [List.map_cons, List.flatMap_cons, List.countP_append,
      List.countP_cons] at induction ⊢
    rw [induction, countP_warning_judge, Nat.add_comm]
    simp only [decide_eq_true_eq]

end FieldContext

variable {compilation : Compilation} {markers : Markers} {candidate : Candidate}

theorem code_of_rejected {diagnostic : Diagnostic}
    (validated : validate compilation markers candidate = .rejected diagnostic) :
    diagnostic.code = .notExtensible ∨ diagnostic.code = .existingMethod := by
  rw [validate] at validated
  cases marked : marker? compilation markers candidate with
  | none =>
    simp only [marked] at validated
    cases validated
  | some marker =>
    cases hidden : visibilityProblem? compilation candidate with
    | some problem =>
      simp only [marked, hidden] at validated
      cases validated
      exact .inl (code_of_visibilityProblem? hidden)
    | none =>
      cases existing : existingMethod? compilation candidate with
      | some found =>
        simp only [marked, hidden, existing] at validated
        cases validated
        exact .inr rfl
      | none =>
        simp only [marked, hidden, existing] at validated
        split at validated <;> cases validated

/-- The outcomes of candidates that are looked at. -/
inductive Outcome.IsRegular : Outcome → Prop where
  | unmarked : IsRegular .unmarked
  | rejected {diagnostic : Diagnostic}
      (code : diagnostic.code = .notExtensible ∨ diagnostic.code = .existingMethod) :
      IsRegular (.rejected diagnostic)
  | empty {diagnostics : List Diagnostic} : IsRegular (.empty diagnostics)
  | generated {accepted : Accepted} {emission : Emission}
      (warned : accepted.diagnostics.countP (!·.isError) =
        accepted.fields.countP (·.verdict = .reference)) :
      IsRegular (.generated accepted emission)

namespace Outcome

theorem isRegular_of_outcome [Digest] {outcome : Outcome}
    (computed : candidate.outcome compilation markers = .ok outcome) : outcome.IsRegular := by
  rw [Candidate.outcome] at computed
  cases validated : validate compilation markers candidate with
  | unmarked =>
    simp only [validated] at computed
    cases computed
    exact .unmarked
  | rejected diagnostic =>
    simp only [validated] at computed
    cases computed
    exact .rejected (code_of_rejected validated)
  | empty diagnostics =>
    simp only [validated] at computed
    cases computed
    exact .empty
  | accepted accepted =>
    simp only [validated] at computed
    cases generated : (candidate.blueprint accepted).fragment with
    | error error =>
      rw [generated] at computed
      cases computed
    | ok fragment =>
      rw [generated] at computed
      cases computed
      have warned := FieldContext.countP_warning_judgeAll ⟨compilation, markers, candidate⟩
      rw [judgeAll_of_accepted validated] at warned
      exact .generated warned

variable {outcome : Outcome}

theorem IsRegular.of_uncached (regular : outcome.uncached.IsRegular) : outcome.IsRegular := by
  cases outcome with
  | generated accepted emission =>
    cases regular with
    | generated warned => exact .generated warned
  | _ => exact regular

theorem IsRegular.counts_once (regular : outcome.IsRegular) :
    outcome.isUnmarked.toNat + outcome.isRejected.toNat + outcome.isEmpty.toNat +
      outcome.isGenerated.toNat = 1 := by
  cases regular <;> rfl

theorem IsRegular.severity {diagnostic : Diagnostic} (regular : IsRegular (.rejected diagnostic)) :
    diagnostic.severity = .error := by
  cases regular with
  | rejected code =>
    rw [Diagnostic.severity]
    rcases code with code | code <;> rw [code] <;> rfl

theorem IsRegular.references_le (regular : outcome.IsRegular) :
    outcome.fields.countP (·.verdict = .reference) ≤ outcome.diagnostics.countP (!·.isError) := by
  cases regular with
  | generated warned => exact Nat.le_of_eq warned.symm
  | _ => exact Nat.zero_le _

theorem cached_le_isGenerated (outcome : Outcome) :
    (outcome.emission?.any Emission.cached).toNat ≤ outcome.isGenerated.toNat := by
  rw [isGenerated]
  cases outcome.emission? with
  | none => exact Nat.le_refl 0
  | some emission => exact Bool.toNat_le emission.cached

theorem length_emission? (outcome : Outcome) :
    outcome.emission?.toList.length = outcome.isGenerated.toNat := by
  rw [isGenerated]
  cases outcome.emission? <;> rfl

theorem isGenerated_iff_statusText (outcome : Outcome) :
    outcome.isGenerated = true ↔ outcome.statusText = "generated" := by
  cases outcome with
  | inert => exact iff_of_false Bool.false_ne_true (by decide)
  | unmarked => exact iff_of_false Bool.false_ne_true (by decide)
  | rejected diagnostic =>
    apply iff_of_false Bool.false_ne_true
    rw [statusText]
    cases diagnostic.code <;> decide
  | empty diagnostics =>
    apply iff_of_false Bool.false_ne_true
    rw [statusText]
    decide
  | generated accepted emission => exact iff_of_true rfl rfl

end Outcome

/-! ## The invariant -/

namespace Accounts

/-- The accounts balance when so many candidates are done. -/
structure Balanced (accounts : Accounts) (done : Nat) : Prop where
  settled : done = accounts.statistics.unmarked + accounts.statistics.rejected +
    accounts.statistics.empty + accounts.statistics.generated
  filed : accounts.fragments.length = accounts.statistics.generated
  errors : accounts.statistics.errors = accounts.diagnostics.countP (·.isError)
  warnings : accounts.statistics.warnings = accounts.diagnostics.countP (!·.isError)
  references : accounts.statistics.referenceFields ≤ accounts.statistics.warnings
  cacheHits : accounts.statistics.cacheHits ≤ accounts.statistics.generated

theorem balanced_opened (candidates : Nat) : (opened candidates).Balanced 0 :=
  ⟨rfl, rfl, rfl, rfl, Nat.le_refl 0, Nat.le_refl 0⟩

theorem Balanced.enter {accounts : Accounts} {done : Nat} (balanced : accounts.Balanced done)
    {outcome : Outcome} (regular : outcome.IsRegular) :
    (accounts.enter outcome).Balanced (done + 1) := by
  rw [enter_eq]
  constructor
  · have once := regular.counts_once
    have settled := balanced.settled
    dsimp only
    omega
  · simp only [List.length_append, List.length_map, balanced.filed, outcome.length_emission?]
  · simp only [List.countP_append, balanced.errors]
  · simp only [List.countP_append, balanced.warnings]
  · exact Nat.add_le_add balanced.references regular.references_le
  · exact Nat.add_le_add balanced.cacheHits outcome.cached_le_isGenerated

theorem balanced_foldl {candidates : Nat} {outcomes : List Outcome}
    (regular : ∀ outcome ∈ outcomes, outcome.IsRegular) :
    (outcomes.foldl enter (opened candidates)).Balanced outcomes.length := by
  induction outcomes using List.reverseRecOn with
  | nil => exact balanced_opened candidates
  | append_singleton outcomes outcome induction =>
    rw [List.forall_mem_append, List.forall_mem_singleton] at regular
    rw [List.foldl_concat, List.length_append]
    exact (induction regular.1).enter regular.2

end Accounts

/-! ## The story -/

/-- The reports, the files, the diagnostics and the statistics of a pass tell one story. -/
structure Output.TellsOneStory [Digest] (output : Output) (compilation : Compilation) : Prop where
  /-- There is one report for each candidate, in their order. -/
  reported : List.Forall₂ (Reports compilation) (Candidate.select compilation) output.reports
  /-- What was put down under way is what the reports say. -/
  entered : output.outcomes.foldl Accounts.enter (.opened (Candidate.select compilation).length) =
    ⟨output.statistics, output.diagnostics, output.reportedFragments⟩
  scanned : output.statistics.candidates = output.reports.length
  settled : output.statistics.candidates = output.statistics.unmarked + output.statistics.rejected +
    output.statistics.empty + output.statistics.generated
  filed : output.fragments.Perm output.reportedFragments
  /-- The reports with a fragment are those that say so. -/
  emitted : ∀ report ∈ output.reports,
    report.outcome.emission?.isSome = true ↔ report.outcome.statusText = "generated"
  /-- A rejected candidate brings one diagnostic, in its place among the others, and no fragment. -/
  rejected : ∀ before report behind diagnostic, output.reports = before ++ report :: behind →
    report.outcome = .rejected diagnostic →
      output.diagnostics = before.flatMap (·.outcome.diagnostics) ++
        diagnostic :: behind.flatMap (·.outcome.diagnostics) ∧
      report.outcome.statusText = "rejected (" ++ diagnostic.code.text ++ ")" ∧
      diagnostic.severity = .error ∧ report.outcome.emission? = none
  serialized : output.statistics.fieldsSerialized =
    (output.reports.map (·.outcome.serialized)).sum
  equalities : output.statistics.withEquality =
    output.reports.countP (·.outcome.equality? = some true)
  errors : output.statistics.errors = output.diagnostics.countP (·.isError)
  warnings : output.statistics.warnings = output.diagnostics.countP (!·.isError)
  failing : output.statistics.hasErrors = output.hasErrors
  references : output.statistics.referenceFields ≤ output.statistics.warnings
  cacheHits : output.statistics.cacheHits ≤ output.statistics.generated

theorem Cache.Sound.afterPasses [Digest] {cache : Cache} {compilations : List Compilation}
    (sound : cache.Sound) (frameable : ∀ compilation ∈ compilations, Frameable compilation) :
    (cache.afterPasses compilations).Sound := by
  induction compilations generalizing cache with
  | nil => exact sound
  | cons compilation rest induction =>
    rw [List.forall_mem_cons] at frameable
    exact induction (sound.pass frameable.1).2 frameable.2

/-- Where there are markers, every candidate is looked at. -/
theorem isRegular_of_reports [Digest] {output : Output} (known : Markers.of? compilation = some markers)
    (reported : List.Forall₂ (Reports compilation) (Candidate.select compilation) output.reports) :
    ∀ outcome ∈ output.outcomes, outcome.IsRegular := by
  have looked : List.Forall₂
      (fun report candidate => report.outcome.IsRegular ∧ Reports compilation candidate report)
      output.reports (Candidate.select compilation) := by
    apply reported.flip.imp
    intro report candidate told
    have computed := told.outcome
    rw [Candidate.fate, known] at computed
    exact ⟨(Outcome.isRegular_of_outcome computed).of_uncached, told⟩
  rw [Output.outcomes, List.forall_mem_map]
  exact ((List.forall₂_and_left _ _).mp looked).1

section Results
variable [Digest] {results : List (Candidate × Outcome)}

theorem accounts_eq
    (reported : List.Forall₂ (Reports compilation) (Candidate.select compilation)
      (Output.ofOutcomes results).reports) :
    let output := Output.ofOutcomes results
    output.outcomes.foldl Accounts.enter (.opened (Candidate.select compilation).length) =
      ⟨output.statistics, output.diagnostics, output.reportedFragments⟩ := by
  intro output
  have scanned : (Candidate.select compilation).length = results.length :=
    reported.length_eq.trans (List.length_map _)
  have reports : output.reportedFragments =
      ((results.map Prod.snd).foldl Accounts.enter (.opened results.length)).fragments := by
    rw [Output.reportedFragments, Accounts.foldl_enter, Accounts.ofOutcomes,
      ← Output.outcomes_ofOutcomes, Output.outcomes, List.filterMap_map]
    rfl
  rw [reports, Output.outcomes_ofOutcomes, scanned]
  rfl

theorem tellsOneStory_of_reports (known : Markers.of? compilation = some markers)
    (reported : List.Forall₂ (Reports compilation) (Candidate.select compilation)
      (Output.ofOutcomes results).reports) :
    (Output.ofOutcomes results).TellsOneStory compilation := by
  have regular := isRegular_of_reports known reported
  have entered := accounts_eq reported
  have balanced := entered ▸ Accounts.balanced_foldl regular
  have diagnostics := Output.diagnostics_ofOutcomes results
  have statistics := Output.statistics_ofOutcomes results
  have filed : (Output.ofOutcomes results).fragments.Perm
      (Output.ofOutcomes results).reportedFragments := Output.perm_reportedFragments
  -- From here on only the outcomes matter.
  generalize Output.ofOutcomes results = output at *
  have scanned : output.statistics.candidates = output.outcomes.length := by
    rw [statistics]
    rfl
  constructor
  case reported => exact reported
  case entered => exact entered
  case scanned => exact scanned.trans (List.length_map _)
  case settled => exact scanned.trans balanced.settled
  case filed => exact filed
  case emitted => exact fun report _ => report.outcome.isGenerated_iff_statusText
  case rejected =>
    intro before report behind diagnostic listed isRejected
    have own : report.outcome.IsRegular := by
      apply regular
      rw [Output.outcomes, listed]
      exact List.mem_map_of_mem (List.mem_append_right _ List.mem_cons_self)
    rw [isRejected] at own ⊢
    refine ⟨?_, rfl, own.severity, rfl⟩
    rw [diagnostics, Output.outcomes, List.flatMap_map, listed, List.flatMap_append,
      List.flatMap_cons, isRejected]
    rfl
  case serialized =>
    have counted : output.statistics.fieldsSerialized =
        (output.outcomes.map Outcome.serialized).sum := by
      rw [statistics]
      exact List.countP_flatMap
    rw [counted, Output.outcomes, List.map_map]
    rfl
  case equalities =>
    rw [statistics]
    exact List.countP_map
  case errors => exact balanced.errors
  case warnings => exact balanced.warnings
  case failing =>
    rw [Bool.eq_iff_iff, Statistics.hasErrors, decide_eq_true_eq, balanced.errors, gt_iff_lt,
      List.countP_pos_iff, Output.hasErrors, List.any_eq_true]
  case references => exact balanced.references
  case cacheHits => exact balanced.cacheHits

end Results

/-- A pass of a crate that can name the runtime package tells one story, whatever passes before it
have left in the cache. -/
theorem pass_tellsOneStory [Digest] {earlier : List Compilation} {output : Output} {after : Cache}
    (frameable : ∀ pass ∈ compilation :: earlier, Frameable pass)
    (known : Markers.of? compilation = some markers)
    (done : (Cache.empty.afterPasses earlier).pass compilation = (.ok output, after)) :
    output.TellsOneStory compilation := by
  rw [List.forall_mem_cons] at frameable
  have sound := Cache.sound_empty.afterPasses frameable.2
  have uncached := (sound.pass frameable.1).1
  rw [done] at uncached
  rcases Cache.pass_eq_ok sound frameable.1 known done with ⟨results, between, -, rfl, -⟩
  exact tellsOneStory_of_reports known (reports_of_uncachedPass uncached.symm)

/-- A struct that is generated without its reference, one that is nothing but a reference, one that
the root cannot name and one without the marker, in the second pass over them. -/
theorem pass_tellsOneStory_again :
    let units := (SourceUnit.parse? "src/lib.rs" ""
        ("#[autoser::auto_serialize(false)] struct A(u8, &'static u8);" ++
          "#[autoser::auto_serialize] struct B(&'static u8); mod m;")).toList ++
      (SourceUnit.parse? "src/m.rs" "m"
        "#[autoser::auto_serialize] struct C; #[repr(C)] struct D;").toList
    let compilation := Compilation.ofUnits units [.runtime "autoser"]
    ∃ output after, (Cache.empty.afterPasses [compilation]).pass compilation = (.ok output, after) ∧
      output.reports.map (fun report => (report.typePath, report.outcome.statusText)) =
        [("A", "generated"), ("B", "no serializable fields"), ("m::C", "rejected (AS001)"),
          ("m::D", "not marked")] ∧
      output.statistics = ⟨4, 1, 0, 1, 1, 1, 0, 1, 1, 1, 1, 2, 1⟩ ∧
      output.TellsOneStory compilation := by
  intro units compilation
  have facts : (Markers.of? compilation).isSome = true ∧
      (∀ external ∈ compilation.crates, Fingerprint.CrateFits external) ∧
      (∀ blueprint ∈ blueprints compilation, Fingerprint.BlueprintFits blueprint) ∧
      ((Cache.empty.afterPasses [compilation]).pass compilation).1.toOption.any (fun output =>
        decide (output.reports.map (fun report => (report.typePath, report.outcome.statusText)) =
            [("A", "generated"), ("B", "no serializable fields"), ("m::C", "rejected (AS001)"),
              ("m::D", "not marked")] ∧
          output.statistics = ⟨4, 1, 0, 1, 1, 1, 0, 1, 1, 1, 1, 2, 1⟩)) = true := by
    set_option maxRecDepth 1000 in
    have read : _ = units := congrArg₂ (fun root inner : Option SourceUnit =>
        root.toList ++ inner.toList)
      (SourceUnit.parse?_ofList.symm.trans (congrArg _ String.ofList_append))
      SourceUnit.parse?_ofList.symm
    clear_value units
    subst read
    decide +kernel
  rcases facts with ⟨marked, crates, blueprints, succeeds⟩
  have frameable : Frameable compilation := ⟨crates, blueprints⟩
  rcases Option.isSome_iff_exists.mp marked with ⟨markers, known⟩
  cases done : (Cache.empty.afterPasses [compilation]).pass compilation with
  | mk result after =>
    rw [done] at succeeds
    rcases exists_of_toOption succeeds with ⟨output, rfl, shown⟩
    rcases of_decide_eq_true shown with ⟨reports, statistics⟩
    refine ⟨output, after, rfl, reports, statistics, pass_tellsOneStory ?_ known done⟩
    simp only [List.forall_mem_cons]
    exact ⟨frameable, frameable, List.forall_mem_nil _⟩

end Wireform.Generation
