import Wireform.Generation.Cache
import Wireform.Generation.Validation

/-! # Outcomes

What becomes of the candidates of a pass, and the accounts that are kept while the pass goes through
them: what is counted, listed and filed for each. -/

namespace Wireform.Generation

inductive Outcome where
  /-- The crate cannot name the runtime package, so no attribute can be the opt-in marker. -/
  | inert
  | unmarked
  | rejected (diagnostic : Diagnostic)
  | empty (diagnostics : List Diagnostic)
  | generated (accepted : Accepted) (emission : Emission)
  deriving DecidableEq, Repr, Inhabited

namespace Outcome

def statusText : Outcome → String
  | .inert => "inert (no autoser dependency)"
  | .unmarked => "not marked"
  | .rejected diagnostic => s!"rejected ({diagnostic.code.text})"
  | .empty _ => "no serializable fields"
  | .generated _ _ => "generated"

def diagnostics : Outcome → List Diagnostic
  | .rejected diagnostic => [diagnostic]
  | .empty diagnostics => diagnostics
  | .generated accepted _ => accepted.diagnostics
  | _ => []

def emission? : Outcome → Option Emission
  | .generated _ emission => some emission
  | _ => none

/-- Whether equality was generated; unknown where nothing was. -/
def equality? : Outcome → Option Bool
  | .generated accepted _ => some accepted.equality
  | _ => none

def fields : Outcome → List FieldVerdict
  | .generated accepted _ => accepted.fields
  | _ => []

def serialized (outcome : Outcome) : Nat := outcome.fields.countP FieldVerdict.isIncluded

def isUnmarked : Outcome → Bool
  | .unmarked => true
  | _ => false

def isRejected : Outcome → Bool
  | .rejected _ => true
  | _ => false

def isEmpty : Outcome → Bool
  | .empty _ => true
  | _ => false

def isGenerated (outcome : Outcome) : Bool := outcome.emission?.isSome

end Outcome

structure Report where
  typePath : String
  location : Location
  outcome : Outcome
  deriving DecidableEq, Repr, Inhabited

structure Statistics where
  candidates : Nat
  generated : Nat
  /-- Structs for which equality was generated. -/
  withEquality : Nat
  fieldsSerialized : Nat
  fieldsExcluded : Nat
  /-- The excluded fields that are references. -/
  referenceFields : Nat
  /-- The excluded fields of which not enough is known. -/
  unresolvedFields : Nat
  unmarked : Nat
  rejected : Nat
  empty : Nat
  errors : Nat
  warnings : Nat
  /-- Fragments that came from the cache. -/
  cacheHits : Nat
  deriving DecidableEq, Repr, Inhabited

namespace Statistics

def hasErrors (statistics : Statistics) : Bool := statistics.errors > 0

def zero : Statistics := ⟨0, 0, 0, 0, 0, 0, 0, 0, 0, 0, 0, 0, 0⟩

def countField (statistics : Statistics) (field : FieldVerdict) : Statistics :=
  match field.verdict with
  | .included => { statistics with fieldsSerialized := statistics.fieldsSerialized + 1 }
  | .reference =>
    { statistics with
      referenceFields := statistics.referenceFields + 1
      fieldsExcluded := statistics.fieldsExcluded + 1 }
  | .unresolved =>
    { statistics with
      unresolvedFields := statistics.unresolvedFields + 1
      fieldsExcluded := statistics.fieldsExcluded + 1 }
  | .zeroSized => { statistics with fieldsExcluded := statistics.fieldsExcluded + 1 }
  | .excluded => { statistics with fieldsExcluded := statistics.fieldsExcluded + 1 }

def countDiagnostic (statistics : Statistics) (diagnostic : Diagnostic) : Statistics :=
  match diagnostic.severity with
  | .error => { statistics with errors := statistics.errors + 1 }
  | .warning => { statistics with warnings := statistics.warnings + 1 }

end Statistics

/-! ## Accounts -/

/-- What a pass has counted, listed and filed when some of its candidates are done. -/
structure Accounts where
  statistics : Statistics
  diagnostics : List Diagnostic
  fragments : List Fragment

namespace Accounts

/-- The candidates are counted before the first of them is looked at. -/
def opened (candidates : Nat) : Accounts := ⟨{ Statistics.zero with candidates }, [], []⟩

def list (accounts : Accounts) (diagnostic : Diagnostic) : Accounts :=
  { accounts with
    statistics := accounts.statistics.countDiagnostic diagnostic
    diagnostics := accounts.diagnostics ++ [diagnostic] }

def file (accounts : Accounts) (equality : Bool) (emission : Emission) : Accounts :=
  { accounts with
    statistics :=
      { accounts.statistics with
        generated := accounts.statistics.generated + 1
        withEquality := accounts.statistics.withEquality + equality.toNat
        cacheHits := accounts.statistics.cacheHits + emission.cached.toNat }
    fragments := accounts.fragments ++ [emission.fragment] }

/-- The accounts behind one more outcome. -/
def enter (accounts : Accounts) : Outcome → Accounts
  | .inert => accounts
  | .unmarked => { accounts with statistics.unmarked := accounts.statistics.unmarked + 1 }
  | .rejected diagnostic =>
    list { accounts with statistics.rejected := accounts.statistics.rejected + 1 } diagnostic
  | .empty diagnostics =>
    diagnostics.foldl list { accounts with statistics.empty := accounts.statistics.empty + 1 }
  | .generated accepted emission =>
    let known := { accounts with
      statistics := accepted.fields.foldl .countField accounts.statistics }
    (accepted.diagnostics.foldl list known).file accepted.equality emission

end Accounts

end Wireform.Generation
