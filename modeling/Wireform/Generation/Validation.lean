import Wireform.Generation.Field
import Wireform.Generation.Policy

namespace Wireform.Generation

/-! Validation: whether impls can be generated for a candidate, and for which of its fields. -/

open Wireform.Names Wireform.Syntax

/-- The method that a hand-written implementation would define. -/
def serializeMethod : String := "serialize"

structure Accepted where
  /-- The index of the opt-in marker among the struct's attributes: the first one, should there be
  several. -/
  marker : Nat
  fields : List FieldVerdict
  diagnostics : List Diagnostic
  equality : Bool
  deriving DecidableEq, Repr, Inhabited

def Accepted.included (accepted : Accepted) : List String :=
  (accepted.fields.filter FieldVerdict.isIncluded).map FieldVerdict.member

inductive Validation where
  /-- No attribute is the opt-in marker. -/
  | unmarked
  | rejected (diagnostic : Diagnostic)
  /-- The struct has no field to serialize. -/
  | empty (diagnostics : List Diagnostic)
  | accepted (accepted : Accepted)
  deriving DecidableEq, Repr, Inhabited

/-! ## Visibility from the crate root -/

/-- The module that a restricted visibility opens an item of `declaredIn` to. -/
def restrictedTo (declaredIn : ModulePath) (path : Path) : Option ModulePath :=
  go declaredIn true (path.names.map Name.spelling)
where
  go (scope : ModulePath) (first : Bool) : List String → Option ModulePath
    | [] => some scope
    | name :: rest =>
      if name = "crate" ∧ first then go [] false rest
      else if name = "self" ∧ first then go scope false rest
      else if name = "super" then
        match scope.parent? with
        | some parent => go parent false rest
        | none => none
      else go (scope ++ [name]) false rest

/-- Whether the crate root can name what is declared in a module with this visibility. -/
def reachesRoot (declaredIn : ModulePath) : Visibility → Bool
  | .everywhere => true
  | .inherited => declaredIn.isEmpty
  | .restricted _ path => restrictedTo declaredIn path = some []

/-- The outermost module on the way to `module` that the crate root cannot name. -/
def hiddenModule? (compilation : Compilation) (module : ModulePath) : Option ModulePath :=
  ((List.range module.length).map fun depth => module.take (depth + 1)).find? fun path =>
    !(compilation.moduleVisibility? path).any (reachesRoot path.dropLast)

def visibilityProblem? (compilation : Compilation) (candidate : Candidate) : Option Problem :=
  if candidate.module.isEmpty then none
  else
    match hiddenModule? compilation candidate.module with
    | some path => some (.hiddenModule path.text)
    | none =>
      if reachesRoot candidate.module candidate.declaration.visibility then none
      else some .hiddenStruct

/-- The first method of the candidate that takes the name of the generated one. -/
def existingMethod? (compilation : Compilation) (candidate : Candidate) :
    Option Compilation.MethodReference :=
  let id := Compilation.declaredSymbol candidate.module candidate.declaration.name
  (compilation.methodsOf id).find? fun found => found.method.name.spelling = serializeMethod

/-- The index of the first attribute that is the opt-in marker. -/
def marker? (compilation : Compilation) (markers : Markers) (candidate : Candidate) : Option Nat :=
  candidate.declaration.attributes.findIdx? (isMarker compilation candidate.module markers.optIn)

/-- Validates a candidate. The first check that fails decides. -/
def validate (compilation : Compilation) (markers : Markers) (candidate : Candidate) : Validation :=
  match marker? compilation markers candidate with
  | none => .unmarked
  | some marker =>
    let name := candidate.typeName
    match visibilityProblem? compilation candidate with
    | some problem => .rejected ⟨name, problem, candidate.location⟩
    | none =>
      match existingMethod? compilation candidate with
      | some found =>
        .rejected ⟨name, .existingMethod serializeMethod, ⟨found.file, found.method.position⟩⟩
      | none =>
        let (fields, diagnostics) := FieldContext.judgeAll ⟨compilation, markers, candidate⟩
        if fields.any FieldVerdict.isIncluded then
          let equality := match candidate.declaration.attributes[marker]? with
            | some tag => equalityPolicy compilation candidate.module tag
            | none => defaultEquality
          .accepted ⟨marker, fields, diagnostics, equality⟩
        else .empty diagnostics

end Wireform.Generation
