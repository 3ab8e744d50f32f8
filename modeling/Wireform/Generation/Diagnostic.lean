import Wireform.Text.Json
import Wireform.Text.Basic

namespace Wireform.Generation

/-! Diagnostics: what is wrong with a struct or with one of its fields, and where. -/

open Wireform.Text

structure Location where
  file : String
  position : Position
  deriving DecidableEq, Repr, Inhabited

def Location.text (location : Location) : String :=
  s!"{location.file}:{location.position.line}:{location.position.column}"

/-- What can be wrong. Fields are named as they are written. -/
inductive Problem where
  /-- Generated code at the crate root cannot name the struct. -/
  | hiddenStruct
  /-- It cannot name the module that the struct is in. -/
  | hiddenModule (module : String)
  | existingMethod (method : String)
  | referenceField (field : String)
  /-- The exclusion marker goes by a name that the attribute macro does not know. -/
  | renamedMarker (field spelling : String)
  deriving DecidableEq, Repr, Inhabited

inductive Code where
  | notExtensible
  | existingMethod
  | referenceField
  | renamedMarker
  deriving DecidableEq, Repr, Inhabited

inductive Severity where
  | error
  | warning
  deriving DecidableEq, Repr, Inhabited

def Problem.code : Problem → Code
  | .hiddenStruct => .notExtensible
  | .hiddenModule _ => .notExtensible
  | .existingMethod _ => .existingMethod
  | .referenceField _ => .referenceField
  | .renamedMarker _ _ => .renamedMarker

namespace Code

def text : Code → String
  | notExtensible => "AS001"
  | existingMethod => "AS002"
  | referenceField => "AS003"
  | renamedMarker => "AS004"

def title : Code → String
  | notExtensible => "struct must be extensible"
  | existingMethod => "serialization method already exists"
  | referenceField => "reference types are not supported"
  | renamedMarker => "field marker must be spelled `non_serialized`"

/-- A reference only costs its field. A renamed marker keeps the struct and still fails the build,
because the compiler does not know the attribute. -/
def severity : Code → Severity
  | referenceField => .warning
  | _ => .error

end Code

def Severity.text : Severity → String
  | .error => "error"
  | .warning => "warning"

structure Diagnostic where
  typeName : String
  problem : Problem
  location : Location
  deriving DecidableEq, Repr, Inhabited

namespace Diagnostic

def code (diagnostic : Diagnostic) : Code := diagnostic.problem.code

def severity (diagnostic : Diagnostic) : Severity := diagnostic.code.severity

def isError (diagnostic : Diagnostic) : Bool := diagnostic.severity = .error

def message (diagnostic : Diagnostic) : String :=
  let name := diagnostic.typeName
  match diagnostic.problem with
  | .hiddenStruct =>
    s!"struct `{name}` must be extensible: declare it `pub(crate)` or `pub` so generated code " ++
      "can reach it"
  | .hiddenModule module =>
    s!"struct `{name}` must be extensible: module `{module}` is not visible from the crate " ++
      "root, so generated code cannot reach it"
  | .existingMethod method => s!"struct `{name}` already defines a `{method}` method"
  | .referenceField field =>
    s!"field `{field}` of `{name}` has a reference type and is not serialized"
  | .renamedMarker field spelling =>
    s!"field `{field}` of `{name}` uses the exclusion marker as `{spelling}`; " ++
      "`auto_serialize` only strips it when spelled `non_serialized`"

/-- Severity and code, as they stand in front of the message. -/
def head (diagnostic : Diagnostic) : String :=
  s!"{diagnostic.severity.text}[{diagnostic.code.text}]"

/-- Two lines: the message and the place. -/
def text (diagnostic : Diagnostic) : String :=
  s!"{diagnostic.head}: {diagnostic.message}\n  --> {diagnostic.location.text}"

def json (diagnostic : Diagnostic) : String :=
  Json.object
    [("code", Json.quoted diagnostic.code.text), ("severity", Json.quoted diagnostic.severity.text),
      ("message", Json.quoted diagnostic.message),
      ("location", Json.object
        [("file", Json.quoted diagnostic.location.file),
          ("line", toString diagnostic.location.position.line),
          ("column", toString diagnostic.location.position.column)])]

end Diagnostic

end Wireform.Generation
