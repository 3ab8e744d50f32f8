import Wireform.Syntax.Parse
import Wireform.Generation.Marker
import Wireform.Generation.Policy

namespace Wireform.Generation

/-! Expansion: what becomes of a marked item when it is compiled. The opt-in marker checks its
arguments and its item, and takes the field markers away, since they mean nothing to the compiler.
Markers are recognized by the last name of their path alone. -/

open Wireform.Syntax

inductive ExpansionError where
  | tooManyArguments
  | unknownArgument
  | notAStruct
  | markedTwice
  | exclusionArguments
  deriving DecidableEq, Repr, Inhabited

def ExpansionError.message : ExpansionError → String
  | .tooManyArguments => s!"`{optInName}` takes at most one argument"
  | .unknownArgument => s!"unknown argument, expected `{equalityArgument}`"
  | .notAStruct => s!"`{optInName}` can only be applied to structs"
  | .markedTwice => s!"`{optInName}` may only be applied once"
  | .exclusionArguments => s!"`{exclusionName}` takes no arguments"

/-- Checks the opt-in marker's arguments: at most one, which has the argument's name if it has a
name at all. -/
def checkArguments : List Expr → Except ExpansionError Unit
  | [] => .ok ()
  | [argument] =>
    if isAssignment argument && (assignedEquality? argument).isNone then .error .unknownArgument
    else .ok ()
  | _ => .error .tooManyArguments

/-- Whether an attribute's path ends in this name. -/
def isNamed (tag : Attribute) (name : String) : Bool :=
  tag.path.last?.any (·.spelling = name)

def AttributeContent.isNone : AttributeContent → Bool
  | .none => true
  | _ => false

/-- A field without its markers. Only the first marker is looked at for arguments. -/
def stripField (field : Field) : Except ExpansionError Field :=
  match field.attributes.find? (isNamed · exclusionName) with
  | some marker =>
    if AttributeContent.isNone marker.content then
      let kept := field.attributes.filter fun other => !isNamed other exclusionName
      .ok { field with attributes := kept }
    else .error .exclusionArguments
  | none => .ok field

/-- The struct that is left of a marked item; the marker itself is no longer among its
attributes. -/
def expand : Item → Except ExpansionError Struct
  | .struct declaration =>
    if declaration.attributes.any (isNamed · optInName) then .error .markedTwice
    else do
      let fields ← declaration.fields.mapM stripField
      return { declaration with fields := fields }
  | _ => .error .notAStruct

def parseArguments? (text : String) : Option (List Expr) :=
  parseText? (fun rules => rules.expressions) text

inductive ExpansionFailure where
  /-- The arguments or the item do not parse. -/
  | syntaxError
  | refused (error : ExpansionError)
  deriving DecidableEq, Repr, Inhabited

/-- Expands the opt-in marker with these arguments on an item. The arguments are checked before the
item is read. -/
def expandMarked (arguments item : String) : Except ExpansionFailure Struct :=
  match parseArguments? arguments with
  | none => .error .syntaxError
  | some given =>
    match checkArguments given with
    | .error error => .error (.refused error)
    | .ok () =>
      match parseItem? item with
      | none => .error .syntaxError
      | some marked => (expand marked).mapError .refused

end Wireform.Generation
