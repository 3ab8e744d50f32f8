import Wireform.Names.Kind
import Wireform.Generation.Marker
import Wireform.Generation.Candidate

namespace Wireform.Generation

/-! Fields: which of them are serialized, and why the others are not. -/

open Wireform.Names Wireform.Syntax

inductive Verdict where
  | included
  /-- The field's type holds no value at all. -/
  | zeroSized
  /-- It is not known whether the field's type owns its value. -/
  | unresolved
  | reference
  /-- An attribute leaves the field out. -/
  | excluded
  deriving DecidableEq, Repr, Inhabited

structure FieldVerdict where
  member : String
  verdict : Verdict
  deriving DecidableEq, Repr, Inhabited

def FieldVerdict.isIncluded (field : FieldVerdict) : Bool := field.verdict = .included

def zeroSizedTypes : List String := ["PhantomData", "PhantomPinned"]

/-- The last name of a path type, with or without a type that the path starts at. -/
def lastName? : Ty → Option Name
  | .path path => path.last?
  | .projection (.mk _ _ rest) => (rest.map Segment.name).getLast?
  | _ => none

def isZeroSized (ty : Ty) : Bool := (lastName? ty).any fun name =>
  zeroSizedTypes.contains name.spelling

/-- Flags of the attribute of another serialization library that leave a field out as well. -/
def skipFlags : List String := ["skip", "skip_serializing"]

def isForeignSkip (tag : Attribute) : Bool :=
  match tag.content with
  | .list _ tokens =>
    tag.path.isName "serde" &&
      match parseTrees? (fun rules => Parser.commaList (rules.attributeBody false)) tokens with
      | some (flags, _) => flags.any fun flag =>
        match flag.content with
        | .none => skipFlags.any flag.path.isName
        | _ => false
      | none => false
  | _ => false

structure FieldContext where
  compilation : Compilation
  markers : Markers
  candidate : Candidate

namespace FieldContext

variable (context : FieldContext)

def isExclusionMarker (tag : Attribute) : Bool :=
  isMarker context.compilation context.candidate.module context.markers.exclusion tag

/-- Whether the field's type allows it to be serialized is decided before its attributes are
looked at. -/
def verdict (field : Field) : Verdict :=
  if isZeroSized field.ty then .zeroSized
  else
    match context.compilation.typeKind? context.candidate.module field.ty
        context.candidate.declaration.parameters.typeNames with
    | none => .unresolved
    | some .reference => .reference
    | some .value =>
      if field.attributes.any fun tag =>
          isForeignSkip tag || context.isExclusionMarker tag then .excluded
      else .included

def diagnostic (problem : Problem) (position : Text.Position) : Diagnostic :=
  ⟨context.candidate.typeName, problem, ⟨context.candidate.file, position⟩⟩

/-- A diagnostic for each attribute that is the exclusion marker under another name. -/
def renamedMarkers (field : Field) (member : String) : List Diagnostic :=
  (field.attributes.filter fun tag =>
    tag.path.last?.any (·.spelling ≠ exclusionName) &&
      context.isExclusionMarker tag).map fun tag =>
    context.diagnostic (.renamedMarker member tag.path.compactText) tag.position

def fieldDiagnostics (field : Field) (member : String) (verdict : Verdict) : List Diagnostic :=
  (if verdict = .reference then [context.diagnostic (.referenceField member) field.position]
    else []) ++ context.renamedMarkers field member

def judge (field : Field) (index : Nat) : FieldVerdict × List Diagnostic :=
  let member := field.member index
  let verdict := context.verdict field
  (⟨member, verdict⟩, context.fieldDiagnostics field member verdict)

def judgeAll : List FieldVerdict × List Diagnostic :=
  let judged := context.candidate.declaration.fields.zipIdx.map fun (field, index) =>
    context.judge field index
  (judged.map Prod.fst, judged.flatMap Prod.snd)

end FieldContext

end Wireform.Generation
