import Wireform.Names.Constant

namespace Wireform.Generation

/-! The policy of a struct: whether equality is generated for it, as the opt-in marker's arguments
say. -/

open Wireform.Names Wireform.Syntax

def equalityArgument : String := "equality"

/-- Without a word about it, equality is generated. -/
def defaultEquality : Bool := true

def isAssignment : Expr → Bool
  | .assign _ _ => true
  | _ => false

def assignedEquality? : Expr → Option Expr
  | .assign (.path path) value => if path.isName equalityArgument then some value else none
  | _ => none

/-- The arguments of an attribute, if they are expressions. -/
def markerArguments? (tag : Attribute) : Option (List Expr) :=
  match tag.content with
  | .list _ tokens => parseTrees? (fun rules => rules.expressions) tokens
  | _ => none

/-- Whether equality is generated. The first argument without a name comes before the one with the
name, and an argument that is no boolean constant counts as if it were not there. -/
def equalityPolicy (compilation : Compilation) (module : ModulePath) (marker : Attribute) : Bool :=
  match markerArguments? marker with
  | none => defaultEquality
  | some arguments =>
    let value? := compilation.boolean? module
    let positional := (arguments.find? fun argument => !isAssignment argument).bind value?
    let named := (arguments.findSome? assignedEquality?).bind value?
    (positional.or named).getD defaultEquality

end Wireform.Generation
