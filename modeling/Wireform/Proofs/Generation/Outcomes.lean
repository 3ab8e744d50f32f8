import Mathlib.Data.List.Basic
import Mathlib.Data.List.Induction
import Wireform.Generation.Pass

/-! # Outcomes of a pass

While a pass goes through its candidates it counts what it sees, lists what is wrong and files the
fragments, one outcome after the other. What it has counted, listed and filed in the end is what all
the outcomes are together. -/

namespace Wireform.Generation

namespace Statistics

/-- The statistics of these outcomes, each number on its own. -/
def ofOutcomes (outcomes : List Outcome) : Statistics :=
  let fields := outcomes.flatMap Outcome.fields
  let diagnostics := outcomes.flatMap Outcome.diagnostics
  let verdicts (verdict : Verdict) : Nat := fields.countP fun field => field.verdict = verdict
  { candidates := outcomes.length
    generated := outcomes.countP Outcome.isGenerated
    withEquality := outcomes.countP fun outcome => outcome.equality? = some true
    fieldsSerialized := verdicts .included
    fieldsExcluded := fields.countP fun field => !field.isIncluded
    referenceFields := verdicts .reference
    unresolvedFields := verdicts .unresolved
    unmarked := outcomes.countP Outcome.isUnmarked
    rejected := outcomes.countP Outcome.isRejected
    empty := outcomes.countP Outcome.isEmpty
    errors := diagnostics.countP Diagnostic.isError
    warnings := diagnostics.countP fun diagnostic => !diagnostic.isError
    cacheHits := outcomes.countP fun outcome => outcome.emission?.any Emission.cached }

theorem foldl_countField (statistics : Statistics) (fields : List FieldVerdict) :
    fields.foldl countField statistics =
      { statistics with
        fieldsSerialized := statistics.fieldsSerialized + fields.countP (·.verdict = .included)
        fieldsExcluded := statistics.fieldsExcluded + fields.countP (!·.isIncluded)
        referenceFields := statistics.referenceFields + fields.countP (·.verdict = .reference)
        unresolvedFields :=
          statistics.unresolvedFields + fields.countP (·.verdict = .unresolved) } := by
  induction fields generalizing statistics with
  | nil => rfl
  | cons field rest induction =>
    rw [List.foldl_cons, induction, countField]
    simp only [List.countP_cons, FieldVerdict.isIncluded]
    cases field.verdict <;> simp [Nat.add_assoc, Nat.add_comm 1]

end Statistics

namespace Accounts

def ofOutcomes (candidates : Nat) (outcomes : List Outcome) : Accounts where
  statistics := { Statistics.ofOutcomes outcomes with candidates }
  diagnostics := outcomes.flatMap Outcome.diagnostics
  fragments := (outcomes.filterMap Outcome.emission?).map Emission.fragment

theorem foldl_list (accounts : Accounts) (diagnostics : List Diagnostic) :
    diagnostics.foldl list accounts =
      { accounts with
        statistics :=
          { accounts.statistics with
            errors := accounts.statistics.errors + diagnostics.countP (·.isError)
            warnings := accounts.statistics.warnings + diagnostics.countP (!·.isError) }
        diagnostics := accounts.diagnostics ++ diagnostics } := by
  induction diagnostics generalizing accounts with
  | nil => simp
  | cons diagnostic rest induction =>
    rw [List.foldl_cons, induction, list, Statistics.countDiagnostic]
    simp only [List.countP_cons, Diagnostic.isError]
    cases diagnostic.severity <;> simp [Nat.add_assoc, Nat.add_comm 1]

/-- All that an outcome adds to the accounts. -/
theorem enter_eq (accounts : Accounts) (outcome : Outcome) :
    accounts.enter outcome =
      { statistics :=
          { candidates := accounts.statistics.candidates
            generated := accounts.statistics.generated + outcome.isGenerated.toNat
            withEquality := accounts.statistics.withEquality +
              (decide (outcome.equality? = some true)).toNat
            fieldsSerialized := accounts.statistics.fieldsSerialized +
              outcome.fields.countP (·.verdict = .included)
            fieldsExcluded :=
              accounts.statistics.fieldsExcluded + outcome.fields.countP (!·.isIncluded)
            referenceFields := accounts.statistics.referenceFields +
              outcome.fields.countP (·.verdict = .reference)
            unresolvedFields := accounts.statistics.unresolvedFields +
              outcome.fields.countP (·.verdict = .unresolved)
            unmarked := accounts.statistics.unmarked + outcome.isUnmarked.toNat
            rejected := accounts.statistics.rejected + outcome.isRejected.toNat
            empty := accounts.statistics.empty + outcome.isEmpty.toNat
            errors := accounts.statistics.errors + outcome.diagnostics.countP (·.isError)
            warnings := accounts.statistics.warnings + outcome.diagnostics.countP (!·.isError)
            cacheHits :=
              accounts.statistics.cacheHits + (outcome.emission?.any Emission.cached).toNat }
        diagnostics := accounts.diagnostics ++ outcome.diagnostics
        fragments := accounts.fragments ++ outcome.emission?.toList.map Emission.fragment } := by
  cases outcome with
  | inert =>
    simp only [enter, Outcome.diagnostics, Outcome.emission?, Option.toList_none, List.map_nil,
      List.append_nil]
    rfl
  | unmarked =>
    simp only [enter, Outcome.diagnostics, Outcome.emission?, Option.toList_none, List.map_nil,
      List.append_nil]
    rfl
  | rejected diagnostic =>
    simp only [enter, Outcome.emission?, Option.toList_none, List.map_nil, List.append_nil]
    exact foldl_list _ [diagnostic]
  | empty diagnostics =>
    simp only [enter, foldl_list, Outcome.emission?, Option.toList_none, List.map_nil,
      List.append_nil]
    rfl
  | generated accepted emission =>
    simp only [enter, file, Statistics.foldl_countField, foldl_list, Outcome.equality?,
      Option.some.injEq, Bool.decide_eq_true]
    rfl

theorem enter_ofOutcomes (candidates : Nat) (outcomes : List Outcome) (outcome : Outcome) :
    (ofOutcomes candidates outcomes).enter outcome =
      ofOutcomes candidates (outcomes ++ [outcome]) := by
  have once (holds : Bool) : (if holds = true then 1 else 0) = holds.toNat := by
    cases holds <;> rfl
  simp only [enter_eq, ofOutcomes, Statistics.ofOutcomes, List.filterMap_eq_flatMap_toList,
    List.flatMap_append, List.flatMap_singleton, List.map_append, List.countP_append,
    List.countP_singleton, once]

/-- What is counted, listed and filed one by one is what all the outcomes leave. -/
theorem foldl_enter (candidates : Nat) (outcomes : List Outcome) :
    outcomes.foldl enter (opened candidates) = ofOutcomes candidates outcomes := by
  -- The last outcome is entered last.
  induction outcomes using List.reverseRecOn with
  | nil => rfl
  | append_singleton outcomes outcome induction =>
    rw [List.foldl_concat, induction, enter_ofOutcomes]

end Accounts

theorem Output.ofOutcomes_eq (results : List (Candidate × Outcome)) :
    let fragments := (results.filterMap fun result => result.2.emission?).map Emission.fragment
    ofOutcomes results =
      { fragments := fragments.mergeSort precedes
        index := indexFor (fragments.map Fragment.fileName)
        diagnostics := (results.map Prod.snd).flatMap Outcome.diagnostics
        reports := results.map fun (candidate, outcome) =>
          ⟨candidate.typePath, candidate.location, outcome⟩
        statistics := .ofOutcomes (results.map Prod.snd) } := by
  have counted : { Statistics.ofOutcomes (results.map Prod.snd) with candidates := results.length } =
      Statistics.ofOutcomes (results.map Prod.snd) := by
    simp only [Statistics.ofOutcomes, List.length_map]
  rw [ofOutcomes, Accounts.foldl_enter, Accounts.ofOutcomes, counted, List.filterMap_map]
  rfl

namespace Output

variable (results : List (Candidate × Outcome))

theorem outcomes_ofOutcomes : (ofOutcomes results).outcomes = results.map Prod.snd :=
  List.map_map

theorem diagnostics_ofOutcomes :
    (ofOutcomes results).diagnostics = (ofOutcomes results).outcomes.flatMap Outcome.diagnostics := by
  rw [outcomes_ofOutcomes, ofOutcomes_eq]

theorem statistics_ofOutcomes :
    (ofOutcomes results).statistics = .ofOutcomes (ofOutcomes results).outcomes := by
  rw [outcomes_ofOutcomes, ofOutcomes_eq]

end Output

end Wireform.Generation
