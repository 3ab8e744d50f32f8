import Wireform.Proofs.Generation.Replacement
import Wireform.Proofs.Generation.Transparency

/-! # Independence of candidates

What becomes of a candidate does not depend on what is inside another struct. A candidate looks at
others only by their names, and a struct that is replaced keeps its name: so where both passes go
through, every other candidate has the same outcome in both. -/

namespace Wireform.Generation

open Wireform.Names Wireform.Syntax

/-! ## Outcomes without places -/

def Diagnostic.placeless (diagnostic : Diagnostic) : Diagnostic :=
  { diagnostic with location := ⟨"", .start⟩ }

def Accepted.placeless (accepted : Accepted) : Accepted :=
  { accepted with diagnostics := accepted.diagnostics.map Diagnostic.placeless }

def Validation.placeless : Validation → Validation
  | .unmarked => .unmarked
  | .rejected diagnostic => .rejected diagnostic.placeless
  | .empty diagnostics => .empty (diagnostics.map Diagnostic.placeless)
  | .accepted found => .accepted found.placeless

def Outcome.placeless : Outcome → Outcome
  | .inert => .inert
  | .unmarked => .unmarked
  | .rejected diagnostic => .rejected diagnostic.placeless
  | .empty diagnostics => .empty (diagnostics.map Diagnostic.placeless)
  | .generated accepted emission => .generated accepted.placeless emission

/-! ## Candidates that say the same -/

section Same

variable {left right : Compilation} (outlook : left.SameOutlook right) {markers : Markers}
  {first second : Candidate} (same : SameCandidate first second)

include same in
theorem SameCandidate.typeName : first.typeName = second.typeName := by
  rw [Candidate.typeName, Candidate.typeName, same.declaration.name]

include same in
theorem SameCandidate.typePath : first.typePath = second.typePath := by
  rw [Candidate.typePath, Candidate.typePath, same.typeName, same.module]

include outlook in
theorem isMarker_congr {module : ModulePath} {marker : String} {tag other : Attribute}
    (alike : SameAttribute tag other) :
    isMarker left module marker tag = isMarker right module marker other := by
  rw [isMarker, isMarker, outlook.symbol?, alike.path]

include outlook same in
theorem marker?_congr : marker? left markers first = marker? right markers second := by
  have images := map_eq_of_forall₂ (f := isMarker left first.module markers.optIn)
    (g := isMarker right second.module markers.optIn)
    (fun tag other alike => by rw [same.module, isMarker_congr outlook alike])
    same.declaration.attributes
  have found := congrArg (List.findIdx? id) images
  rw [List.findIdx?_map, List.findIdx?_map] at found
  exact found

include outlook same in
theorem visibilityProblem?_congr :
    visibilityProblem? left first = visibilityProblem? right second := by
  have hidden : hiddenModule? left = hiddenModule? right := by
    funext module
    simp only [hiddenModule?, outlook.moduleVisibility?]
  rw [visibilityProblem?, visibilityProblem?, hidden, same.module, same.declaration.visibility]

include outlook same in
theorem isSome_existingMethod?_congr :
    (existingMethod? left first).isSome = (existingMethod? right second).isSome := by
  rw [existingMethod?, existingMethod?, List.isSome_find?, List.isSome_find?, same.module,
    same.declaration.name]
  exact outlook.any_methodsOf _ fun name => name.spelling = serializeMethod

/-! ## Fields -/

variable {field other : Field} (alike : SameField field other)

include outlook same alike in
theorem verdict_congr : FieldContext.verdict ⟨left, markers, first⟩ field =
    FieldContext.verdict ⟨right, markers, second⟩ other := by
  have excluded : (field.attributes.any fun tag => isForeignSkip tag ||
      FieldContext.isExclusionMarker ⟨left, markers, first⟩ tag) =
      other.attributes.any fun tag => isForeignSkip tag ||
        FieldContext.isExclusionMarker ⟨right, markers, second⟩ tag := by
    refine any_eq_of_forall₂ ?_ alike.attributes
    intro tag otherTag sameTag
    rw [sameTag.skips, FieldContext.isExclusionMarker, FieldContext.isExclusionMarker, same.module,
      isMarker_congr outlook sameTag]
  simp only [FieldContext.verdict, alike.ty, outlook.typeKind?, same.module,
    same.declaration.typeNames, excluded]

include outlook same alike in
theorem renamedMarkers_congr (member : String) :
    (FieldContext.renamedMarkers ⟨left, markers, first⟩ field member).map Diagnostic.placeless =
      (FieldContext.renamedMarkers ⟨right, markers, second⟩ other member).map
        Diagnostic.placeless := by
  rw [FieldContext.renamedMarkers, FieldContext.renamedMarkers, List.map_map, List.map_map]
  refine filter_map_eq_of_forall₂ ?_ ?_ alike.attributes
  · intro tag otherTag sameTag
    rw [FieldContext.isExclusionMarker, FieldContext.isExclusionMarker, same.module,
      isMarker_congr outlook sameTag, sameTag.path]
  · intro tag otherTag sameTag
    simp only [Function.comp_apply, FieldContext.diagnostic, Diagnostic.placeless, sameTag.path,
      same.typeName]

def judgedPlaceless (judged : FieldVerdict × List Diagnostic) : FieldVerdict × List Diagnostic :=
  (judged.1, judged.2.map Diagnostic.placeless)

include outlook same in
theorem judge_congr (index : Nat) {field other : Field} (alike : SameField field other) :
    judgedPlaceless (FieldContext.judge ⟨left, markers, first⟩ field index) =
      judgedPlaceless (FieldContext.judge ⟨right, markers, second⟩ other index) := by
  have member : field.member index = other.member index := by
    rw [Field.member, Field.member, alike.name]
  have reference (verdict : Verdict) :
      (if verdict = .reference then [FieldContext.diagnostic ⟨left, markers, first⟩
          (.referenceField (other.member index)) field.position] else []).map
          Diagnostic.placeless =
        (if verdict = .reference then [FieldContext.diagnostic ⟨right, markers, second⟩
          (.referenceField (other.member index)) other.position] else []).map
          Diagnostic.placeless := by
    split
    · simp only [List.map_cons, List.map_nil, FieldContext.diagnostic, Diagnostic.placeless,
        same.typeName]
    · rfl
  simp only [judgedPlaceless, FieldContext.judge, FieldContext.fieldDiagnostics, member,
    verdict_congr outlook same alike, List.map_append, renamedMarkers_congr outlook same alike,
    reference]

include outlook same in
theorem judgeAll_congr :
    (FieldContext.judgeAll ⟨left, markers, first⟩).1 =
        (FieldContext.judgeAll ⟨right, markers, second⟩).1 ∧
      (FieldContext.judgeAll ⟨left, markers, first⟩).2.map Diagnostic.placeless =
        (FieldContext.judgeAll ⟨right, markers, second⟩).2.map Diagnostic.placeless := by
  have judged := zipIdx_map_eq_of_forall₂ (f := fun field index =>
      judgedPlaceless (FieldContext.judge ⟨left, markers, first⟩ field index))
    (g := fun field index =>
      judgedPlaceless (FieldContext.judge ⟨right, markers, second⟩ field index))
    (fun field other index alike => judge_congr outlook same index alike) same.declaration.fields 0
  have verdicts := congrArg (List.map Prod.fst) judged
  have diagnostics := congrArg (List.flatMap Prod.snd) judged
  rw [List.map_map, List.map_map] at verdicts
  rw [List.flatMap_map, List.flatMap_map] at diagnostics
  constructor
  · simp only [FieldContext.judgeAll, List.map_map]
    exact verdicts
  · simp only [FieldContext.judgeAll, List.map_flatMap, List.flatMap_map]
    exact diagnostics

/-! ## Outcomes -/

include outlook same in
theorem equalityPolicy_congr {tag other : Attribute} (alike : SameAttribute tag other) :
    equalityPolicy left first.module tag = equalityPolicy right second.module other := by
  rw [equalityPolicy, equalityPolicy, alike.arguments, outlook.boolean?, same.module]

def policyAt (compilation : Compilation) (candidate : Candidate) (index : Nat) : Bool :=
  match candidate.declaration.attributes[index]? with
  | some tag => equalityPolicy compilation candidate.module tag
  | none => defaultEquality

include outlook same in
theorem policyAt_congr (index : Nat) : policyAt left first index = policyAt right second index := by
  have images := map_eq_of_forall₂ (f := equalityPolicy left first.module)
    (g := equalityPolicy right second.module)
    (fun tag other alike => equalityPolicy_congr outlook same alike) same.declaration.attributes
  have found := congrArg (·[index]?) images
  simp only [List.getElem?_map] at found
  rw [policyAt, policyAt]
  cases ofFirst : first.declaration.attributes[index]? <;>
    cases ofSecond : second.declaration.attributes[index]? <;>
    simp_all

include outlook same in
theorem validate_congr : (validate left markers first).placeless =
    (validate right markers second).placeless := by
  obtain ⟨fields, diagnostics⟩ : (FieldContext.judgeAll ⟨left, markers, first⟩).1 = _ ∧ _ :=
    judgeAll_congr outlook same
  have existing := isSome_existingMethod?_congr outlook same
  rw [validate, validate, marker?_congr outlook same, visibilityProblem?_congr outlook same]
  cases marker? right markers second with
  | none => rfl
  | some marker =>
    cases visibilityProblem? right second with
    | some problem =>
      simp only [Validation.placeless, Diagnostic.placeless, same.typeName]
    | none =>
      cases ofFirst : existingMethod? left first with
      | some method =>
        rw [ofFirst] at existing
        obtain ⟨other, ofSecond⟩ := Option.isSome_iff_exists.mp existing.symm
        simp only [ofSecond, Validation.placeless, Diagnostic.placeless, same.typeName]
      | none =>
        rw [ofFirst] at existing
        have ofSecond := Option.isNone_iff_eq_none.mp (Option.isSome_eq_false_iff.mp existing.symm)
        simp only [ofSecond, fields]
        split
        · simp only [Validation.placeless, Accepted.placeless, diagnostics]
          exact congrArg (fun equality => Validation.accepted ⟨marker, _, _, equality⟩)
            (policyAt_congr outlook same marker)
        · simp only [Validation.placeless, diagnostics]

include same in
theorem imprint_congr {accepted other : Accepted} (alike : accepted.placeless = other.placeless) :
    (first.blueprint accepted).imprint = (second.blueprint other).imprint := by
  have fields : accepted.fields = other.fields := congrArg (fun found => found.fields) alike
  have equality : accepted.equality = other.equality := congrArg (fun found => found.equality) alike
  rw [Blueprint.imprint, Blueprint.imprint, Imprint.mk.injEq, Candidate.blueprint,
    Candidate.blueprint, Accepted.included, Accepted.included]
  refine ⟨same.module, congrArg Name.spelling same.declaration.name, same.declaration.parameters,
    same.declaration.predicates, ?_, equality⟩
  rw [fields]

variable [Digest] (all : legible first.declaration) (otherAll : legible second.declaration)

include outlook same all otherAll in
theorem outcome_congr : (first.outcome left markers).map Outcome.placeless =
    (second.outcome right markers).map Outcome.placeless := by
  -- Without positions the two validations are equal, so they are of one kind.
  have validated : (validate left markers first).placeless = _ := validate_congr outlook same
  rw [Candidate.outcome, Candidate.outcome]
  cases ofFirst : validate left markers first with
  | unmarked =>
    cases ofSecond : validate right markers second with
    | unmarked => rfl
    | _ =>
      rw [ofFirst, ofSecond] at validated
      cases validated
  | rejected diagnostic =>
    cases ofSecond : validate right markers second with
    | rejected other =>
      rw [ofFirst, ofSecond] at validated
      have alike : diagnostic.placeless = other.placeless := Validation.rejected.inj validated
      simp only [Except.map, Outcome.placeless, alike]
    | _ =>
      rw [ofFirst, ofSecond] at validated
      cases validated
  | empty diagnostics =>
    cases ofSecond : validate right markers second with
    | empty others =>
      rw [ofFirst, ofSecond] at validated
      have alike : diagnostics.map Diagnostic.placeless = others.map Diagnostic.placeless :=
        Validation.empty.inj validated
      simp only [Except.map, Outcome.placeless, alike]
    | _ =>
      rw [ofFirst, ofSecond] at validated
      cases validated
  | accepted found =>
    cases ofSecond : validate right markers second with
    | accepted other =>
      rw [ofFirst, ofSecond] at validated
      have alike : found.placeless = other.placeless := Validation.accepted.inj validated
      have printed := imprint_congr same alike
      have fragments : (first.blueprint found).fragment = (second.blueprint other).fragment :=
        Blueprint.fragment_congr all otherAll printed
      simp only [fragments, Fingerprint.ofBlueprint, printed]
      cases (second.blueprint other).fragment with
      | error error => rfl
      | ok fragment => simp only [Except.map, Outcome.placeless, alike]
    | _ =>
      rw [ofFirst, ofSecond] at validated
      cases validated

end Same

/-! ## Passes -/

/-- What two reports of one struct agree on: everything but places. -/
structure SameReport (left right : Report) : Prop where
  typePath : left.typePath = right.typePath
  status : left.outcome.statusText = right.outcome.statusText
  fields : left.outcome.fields = right.outcome.fields
  equality : left.outcome.equality? = right.outcome.equality?
  diagnostics : (left.outcome.diagnostics.map fun found => (found.code, found.message)) =
    right.outcome.diagnostics.map fun found => (found.code, found.message)
  fragment : left.outcome.emission?.map Emission.fragment =
    right.outcome.emission?.map Emission.fragment

namespace Outcome

variable (outcome : Outcome)

theorem statusText_uncached : outcome.uncached.statusText = outcome.statusText := by
  cases outcome <;> rfl

theorem statusText_placeless : outcome.placeless.statusText = outcome.statusText := by
  cases outcome <;> rfl

theorem fields_placeless : outcome.placeless.fields = outcome.fields := by
  cases outcome <;> rfl

theorem equality?_placeless : outcome.placeless.equality? = outcome.equality? := by
  cases outcome <;> rfl

theorem emission?_placeless : outcome.placeless.emission? = outcome.emission? := by
  cases outcome <;> rfl

theorem diagnostics_placeless :
    outcome.placeless.diagnostics = outcome.diagnostics.map Diagnostic.placeless := by
  cases outcome <;> rfl

end Outcome

theorem SameReport.of_placeless {left right : Report} (typePath : left.typePath = right.typePath)
    (same : left.outcome.uncached.placeless = right.outcome.uncached.placeless) :
    SameReport left right where
  typePath := typePath
  status := by
    rw [← Outcome.statusText_uncached, ← Outcome.statusText_placeless, same,
      Outcome.statusText_placeless, Outcome.statusText_uncached]
  fields := by
    rw [← Outcome.fields_uncached, ← Outcome.fields_placeless, same, Outcome.fields_placeless,
      Outcome.fields_uncached]
  equality := by
    rw [← Outcome.equality?_uncached, ← Outcome.equality?_placeless, same,
      Outcome.equality?_placeless, Outcome.equality?_uncached]
  diagnostics := by
    have alike := congrArg (fun outcome : Outcome =>
      outcome.diagnostics.map fun found => (found.code, found.message)) same
    simp only [Outcome.diagnostics_placeless, Outcome.diagnostics_uncached, List.map_map] at alike
    exact alike
  fragment := by
    have alike := congrArg (fun outcome : Outcome => outcome.emission?.map Emission.fragment) same
    simp only [Outcome.emission?_placeless, Outcome.emission?_uncached, Option.map_map] at alike
    exact alike

theorem exists_append_of_forall₂ {α β : Type} {related : α → β → Prop} {first second : List α}
    {values : List β} (pairs : List.Forall₂ related (first ++ second) values) :
    ∃ front back, values = front ++ back ∧ List.Forall₂ related first front ∧
      List.Forall₂ related second back := by
  induction first generalizing values with
  | nil => exact ⟨[], values, rfl, .nil, pairs⟩
  | cons value first induction =>
    cases pairs with
    | @cons _ other _ rest pair pairs =>
      obtain ⟨front, back, rfl, inFront, inBack⟩ := induction pairs
      exact ⟨other :: front, back, rfl, .cons pair inFront, inBack⟩

section Passes
variable [Digest]

theorem fate_congr {left right : Compilation} (outlook : left.SameOutlook right)
    {first second : Candidate} (same : SameCandidate first second)
    (all : legible first.declaration) (otherAll : legible second.declaration) :
    (first.fate left).map Outcome.placeless = (second.fate right).map Outcome.placeless := by
  rw [Candidate.fate, Candidate.fate, Markers.of?_congr outlook.crates]
  cases Markers.of? right with
  | none => rfl
  | some markers => exact outcome_congr outlook same all otherAll

/-- The report tells what becomes of the candidate. -/
structure Reports (compilation : Compilation) (candidate : Candidate) (report : Report) : Prop where
  typePath : report.typePath = candidate.typePath
  location : report.location = candidate.location
  outcome : candidate.fate compilation = .ok report.outcome.uncached

/-- Where a pass tells what a pass without a cache does, its reports tell the candidates' fates, in
order. -/
theorem reports_of_uncachedPass {compilation : Compilation} {output : Output}
    (done : uncachedPass compilation = .ok output.uncached) :
    List.Forall₂ (Reports compilation) (Candidate.select compilation) output.reports := by
  obtain ⟨results, same, selected, fates⟩ := uncachedPass_eq_ok done
  have reported : output.reports.map Report.uncached =
      results.map fun result => ⟨result.1.typePath, result.1.location, result.2⟩ :=
    congrArg (fun other => other.reports) same
  rw [← selected]
  clear same selected done
  generalize output.reports = reports at reported
  induction results generalizing reports with
  | nil =>
    rw [List.map_eq_nil_iff.mp reported]
    exact .nil
  | cons result rest induction =>
    obtain ⟨own, others⟩ := List.forall_mem_cons.mp fates
    cases reports with
    | nil => cases reported
    | cons report reports =>
      obtain ⟨first, behind⟩ := List.cons.inj reported
      refine .cons ⟨?_, ?_, ?_⟩ (induction others reports behind)
      · exact congrArg (fun found => found.typePath) first
      · exact congrArg (fun found => found.location) first
      · rw [own]
        exact congrArg (fun found => Except.ok found.outcome) first.symm

/-- The reports of a pass tell the candidates' fates, in order. -/
theorem reports_of_generate {compilation : Compilation} {output : Output}
    (frameable : Frameable compilation) (done : generate compilation = .ok output) :
    List.Forall₂ (Reports compilation) (Candidate.select compilation) output.reports :=
  reports_of_uncachedPass (uncachedPass_of_generate frameable done)

theorem Reports.same {left right : Compilation} (outlook : left.SameOutlook right)
    {first second : Candidate} (pair : SameCandidate first second)
    (all : legible first.declaration) (otherAll : legible second.declaration)
    {report other : Report} (told : Reports left first report) (retold : Reports right second other) :
    SameReport report other := by
  refine .of_placeless ?_ ?_
  · rw [told.typePath, retold.typePath, pair.typePath]
  · have fates := fate_congr outlook pair all otherAll
    rw [told.outcome, retold.outcome] at fates
    exact Except.ok.inj fates

/-- Candidates that say the same have reports that tell the same. -/
theorem sameReports {left right : Compilation} (outlook : left.SameOutlook right)
    {candidates others : List Candidate} (same : List.Forall₂ SameCandidate candidates others)
    (all : ∀ candidate ∈ candidates, legible candidate.declaration)
    (othersAll : ∀ candidate ∈ others, legible candidate.declaration)
    {reports more : List Report} (ofLeft : List.Forall₂ (Reports left) candidates reports)
    (ofRight : List.Forall₂ (Reports right) others more) :
    List.Forall₂ SameReport reports more := by
  induction same generalizing reports more with
  | nil =>
    cases ofLeft
    cases ofRight
    exact .nil
  | @cons first second candidates others pair rest induction =>
    cases ofLeft with
    | cons told ofLeft =>
      cases ofRight with
      | cons retold ofRight =>
        obtain ⟨own, rest⟩ := List.forall_mem_cons.mp all
        obtain ⟨otherOwn, otherRest⟩ := List.forall_mem_cons.mp othersAll
        exact .cons (told.same outlook pair own otherOwn retold)
          (induction rest otherRest ofLeft ofRight)

/-- Where one struct is replaced by another of the same name and both passes go through, all other
candidates have reports that tell the same, in the same order: only the reports between them, which
are those on the two structs, can differ. -/
theorem others_unaffected {left right : List SourceUnit} {externalCrates : List ExternalCrate}
    {old new : Struct} {module : ModulePath} {file : String} {output replaced : Output}
    (replacement : ReplacedIn old new module file left right)
    (sameName : old.name.text = new.name.text)
    (leftFrameable : Frameable (.ofUnits left externalCrates))
    (rightFrameable : Frameable (.ofUnits right externalCrates))
    (leftDone : generate (.ofUnits left externalCrates) = .ok output)
    (rightDone : generate (.ofUnits right externalCrates) = .ok replaced) :
    ∃ before own after before' own' after',
      output.reports = before ++ (own ++ after) ∧ replaced.reports = before' ++ (own' ++ after') ∧
      List.Forall₂ (Reports (.ofUnits left externalCrates))
        (Candidate.ofItem file module (.struct old)) own ∧
      List.Forall₂ (Reports (.ofUnits right externalCrates))
        (Candidate.ofItem file module (.struct new)) own' ∧
      List.Forall₂ SameReport before before' ∧ List.Forall₂ SameReport after after' := by
  have outlook : (Compilation.ofUnits left externalCrates).SameOutlook
      (.ofUnits right externalCrates) := replacement.sameOutlook sameName
  have ofLeft := reports_of_generate leftFrameable leftDone
  have ofRight := reports_of_generate rightFrameable rightDone
  have candidates : CandidatesAround old new module file
      (Candidate.select (.ofUnits left externalCrates))
      (Candidate.select (.ofUnits right externalCrates)) := replacement.candidates
  have all : ∀ candidate ∈ Candidate.select (.ofUnits left externalCrates),
      legible candidate.declaration := fun _ => Candidate.legible_declaration
  have otherAll : ∀ candidate ∈ Candidate.select (.ofUnits right externalCrates),
      legible candidate.declaration := fun _ => Candidate.legible_declaration
  generalize Candidate.select (.ofUnits left externalCrates) = selected at candidates ofLeft all
  generalize Candidate.select (.ofUnits right externalCrates) = reselected
    at candidates ofRight otherAll
  obtain ⟨front, back⟩ := candidates
  obtain ⟨before, behind, isLeft, beforeLeft, behindLeft⟩ := exists_append_of_forall₂ ofLeft
  obtain ⟨own, after, rfl, ownLeft, afterLeft⟩ := exists_append_of_forall₂ behindLeft
  obtain ⟨before', behind', isRight, beforeRight, behindRight⟩ := exists_append_of_forall₂ ofRight
  obtain ⟨own', after', rfl, ownRight, afterRight⟩ := exists_append_of_forall₂ behindRight
  exact ⟨before, own, after, before', own', after', isLeft, isRight, ownLeft, ownRight,
    sameReports outlook front (fun _ among => all _ (List.mem_append_left _ among))
      (fun _ among => otherAll _ (List.mem_append_left _ among)) beforeLeft beforeRight,
    sameReports outlook back (fun _ among => all _ (by simp [among]))
      (fun _ among => otherAll _ (by simp [among])) afterLeft afterRight⟩

end Passes

/-- The struct that a source declares, if it declares nothing else. -/
def onlyStruct? (unit : SourceUnit) : Option Struct :=
  match unit.items with
  | [.struct declaration] => some declaration
  | _ => none

theorem items_of_onlyStruct? {unit : SourceUnit} {declaration : Struct}
    (only : onlyStruct? unit = some declaration) : unit.items = [.struct declaration] := by
  unfold onlyStruct? at only
  split at only
  · rename_i items
    rw [items, Option.some.inj only]
  · cases only

theorem replacedIn_of_onlyStruct? {path module source other : String} {unit replaced : SourceUnit}
    {old new : Struct} (parses : SourceUnit.parse? path module source = some unit)
    (reparses : SourceUnit.parse? path module other = some replaced)
    (only : onlyStruct? unit = some old) (onlyNew : onlyStruct? replaced = some new)
    (before : List SourceUnit) :
    ReplacedIn old new (.ofText module) path (before ++ [unit]) (before ++ [replaced]) := by
  have items := items_of_onlyStruct? only
  have newItems := items_of_onlyStruct? onlyNew
  obtain ⟨_, _, rfl⟩ := SourceUnit.parse?_eq_some_iff.mp parses
  obtain ⟨_, _, rfl⟩ := SourceUnit.parse?_eq_some_iff.mp reparses
  refine .mk before [] rfl rfl rfl ?_
  simp only at items newItems ⊢
  rw [items, newItems]
  exact .here .nil .nil

/-- A library with a struct in each of its two files, the first of which has a field of the other
one's type: without the marker and the fields of the other, the first is generated as before. -/
theorem others_unaffected_field :
    let lib := SourceUnit.parse? "src/lib.rs" ""
      "pub mod inner; #[autoser::auto_serialize] pub struct Outer { pub a: inner::Inner }"
    let inner := SourceUnit.parse? "src/inner.rs" "inner"
    let old := inner "#[autoser::auto_serialize] pub struct Inner { pub x: u8 }"
    let new := inner "pub struct Inner;"
    let left := Compilation.ofUnits (lib.toList ++ old.toList) [.runtime "autoser"]
    let right := Compilation.ofUnits (lib.toList ++ new.toList) [.runtime "autoser"]
    ∃ output replaced before own after before' own' after',
      generate left = .ok output ∧ generate right = .ok replaced ∧
      output.reports.map (fun report => (report.typePath, report.outcome.isGenerated)) =
        [("Outer", true), ("inner::Inner", true)] ∧
      replaced.reports.map (fun report => (report.typePath, report.outcome.isGenerated)) =
        [("Outer", true)] ∧
      output.reports = before ++ (own ++ after) ∧ replaced.reports = before' ++ (own' ++ after') ∧
      List.Forall₂ SameReport before before' ∧ List.Forall₂ SameReport after after' := by
  intro lib inner old new left right
  let nameOf (declaration : Struct) : String := declaration.name.text
  have facts : (old.bind onlyStruct?).map nameOf = some "Inner" ∧
      (new.bind onlyStruct?).map nameOf = some "Inner" ∧
      (generate left).toOption.any (fun output =>
        decide (output.reports.map (fun report => (report.typePath, report.outcome.isGenerated)) =
          [("Outer", true), ("inner::Inner", true)])) = true ∧
      (generate right).toOption.any (fun output =>
        decide (output.reports.map (fun report => (report.typePath, report.outcome.isGenerated)) =
          [("Outer", true)])) = true ∧
      (∀ external ∈ left.crates, Fingerprint.CrateFits external) ∧
      (∀ blueprint ∈ blueprints left, Fingerprint.BlueprintFits blueprint) ∧
      (∀ external ∈ right.crates, Fingerprint.CrateFits external) ∧
      ∀ blueprint ∈ blueprints right, Fingerprint.BlueprintFits blueprint := by
    have read : _ = lib := SourceUnit.parse?_ofList.symm
    clear_value lib
    subst read
    have read : _ = old := SourceUnit.parse?_ofList.symm
    clear_value old
    subst read
    have read : _ = new := SourceUnit.parse?_ofList.symm
    clear_value new
    subst read
    decide +kernel
  obtain ⟨hasOld, hasNew, leftSucceeds, rightSucceeds, leftCrates, leftFitting, rightCrates,
    rightFitting⟩ := facts
  obtain ⟨output, leftDone, leftReports⟩ := exists_of_toOption leftSucceeds
  obtain ⟨replaced, rightDone, rightReports⟩ := exists_of_toOption rightSucceeds
  obtain ⟨declaration, isOld, name⟩ := Option.map_eq_some_iff.mp hasOld
  obtain ⟨unit, parses, only⟩ := Option.bind_eq_some_iff.mp isOld
  obtain ⟨replacement, isNew, newName⟩ := Option.map_eq_some_iff.mp hasNew
  obtain ⟨other, reparses, onlyNew⟩ := Option.bind_eq_some_iff.mp isNew
  have exchanged : ReplacedIn declaration replacement (.ofText "inner") "src/inner.rs"
      (lib.toList ++ old.toList) (lib.toList ++ new.toList) := by
    rw [parses, reparses]
    exact replacedIn_of_onlyStruct? parses reparses only onlyNew lib.toList
  have sameName : declaration.name.text = replacement.name.text := name.trans newName.symm
  obtain ⟨before, own, after, before', own', after', isLeft, isRight, -, -, front, back⟩ :=
    others_unaffected exchanged sameName ⟨leftCrates, leftFitting⟩ ⟨rightCrates, rightFitting⟩
      leftDone rightDone
  exact ⟨output, replaced, before, own, after, before', own', after', leftDone, rightDone,
    of_decide_eq_true leftReports, of_decide_eq_true rightReports, isLeft, isRight, front, back⟩

end Wireform.Generation
