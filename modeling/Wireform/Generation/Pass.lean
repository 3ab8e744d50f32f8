import Wireform.Generation.Outcome

/-! # Passes

One pass over a compilation: every candidate is validated, and a fragment is generated for each one
that is accepted. -/

namespace Wireform.Generation

open Wireform.Names Wireform.Syntax

structure Output where
  /-- The fragments, in the order of their file names. -/
  fragments : List Fragment
  index : Fragment
  /-- The diagnostics, in the order of the candidates, as are the reports. -/
  diagnostics : List Diagnostic
  reports : List Report
  statistics : Statistics
  deriving DecidableEq, Repr, Inhabited

namespace Output

variable (output : Output)

def outcomes : List Outcome := output.reports.map Report.outcome

def hasErrors : Bool := output.diagnostics.any Diagnostic.isError

def files : List Fragment := output.fragments ++ [output.index]

/-- The order of fragments: by file name, then by code. -/
def precedes (left right : Fragment) : Bool :=
  left.fileName < right.fileName || (left.fileName = right.fileName && left.code ≤ right.code)

/-- The output for candidates with their outcomes, which are entered one after the other. -/
def ofOutcomes (results : List (Candidate × Outcome)) : Output :=
  let accounts := (results.map Prod.snd).foldl Accounts.enter (.opened results.length)
  { fragments := accounts.fragments.mergeSort precedes
    index := indexFor (accounts.fragments.map Fragment.fileName)
    diagnostics := accounts.diagnostics
    reports := results.map fun (candidate, outcome) =>
      ⟨candidate.typePath, candidate.location, outcome⟩
    statistics := accounts.statistics }

end Output

/-- Everything that decides the fragment of an accepted candidate. -/
def Candidate.blueprint (candidate : Candidate) (accepted : Accepted) : Blueprint where
  modules := candidate.module
  name := candidate.declaration.name
  parameters := candidate.declaration.parameters
  predicates := candidate.declaration.predicates
  members := accepted.included
  equality := accepted.equality

section Passes
variable [Digest]

def Cache.process (cache : Cache) (compilation : Compilation) (markers : Markers)
    (candidate : Candidate) : Except FragmentError (Outcome × Cache) :=
  match validate compilation markers candidate with
  | .unmarked => .ok (.unmarked, cache)
  | .rejected diagnostic => .ok (.rejected diagnostic, cache)
  | .empty diagnostics => .ok (.empty diagnostics, cache)
  | .accepted accepted => do
    let (emission, cache) ← cache.emit (candidate.blueprint accepted)
    return (.generated accepted emission, cache)

/-- The outcomes of candidates in order, and the cache after them. The first failure ends the pass;
what is in the cache by then stays there. -/
def Cache.processAll (cache : Cache) (compilation : Compilation) (markers : Markers) :
    List Candidate → Except FragmentError (List (Candidate × Outcome)) × Cache
  | [] => (.ok [], cache)
  | candidate :: rest =>
    match cache.process compilation markers candidate with
    | .error error => (.error error, cache)
    | .ok (outcome, cache) =>
      let (results, cache) := cache.processAll compilation markers rest
      (results.map ((candidate, outcome) :: ·), cache)

/-- A pass with what earlier passes left in the cache. Only a pass that has markers and succeeds
drops fragments from the cache: those that it did not generate. -/
def Cache.pass (cache : Cache) (compilation : Compilation) : Except FragmentError Output × Cache :=
  let candidates := Candidate.select compilation
  let (markers, cache) := cache.markersOf compilation
  match markers with
  | none => (.ok (.ofOutcomes (candidates.map fun candidate => (candidate, .inert))), cache)
  | some markers =>
    let (results, cache) := cache.processAll compilation markers candidates
    match results with
    | .error error => (.error error, cache)
    | .ok results =>
      let live := (results.filterMap fun result => result.2.emission?).map Emission.fingerprint
      (.ok (.ofOutcomes results), cache.retain live)

/-- The results of passes over these compilations, each with what the passes before it left in the
cache. -/
def Cache.passes (cache : Cache) : List Compilation → List (Except FragmentError Output)
  | [] => []
  | compilation :: rest =>
    let (result, cache) := cache.pass compilation
    result :: cache.passes rest

/-- A pass on its own. -/
def generate (compilation : Compilation) : Except FragmentError Output :=
  (Cache.empty.pass compilation).1

end Passes

end Wireform.Generation
