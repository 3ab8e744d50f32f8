import Wireform.Names.Resolve

namespace Wireform.Names

/-! Kinds of types: whether a type owns all of its value. Type aliases are followed, each in the
module that declares it. -/

open Wireform.Syntax

/-- The types of the standard crates that share or borrow their value. -/
def sharedPointers : List String := ["Rc", "Arc", "Weak", "Cow"]

def isSharedPointer (crate : ExternalCrate) (path : List String) : Bool :=
  standardCrates.contains crate.crateName && path.getLast?.any sharedPointers.contains

/-- The kind of a type in a module, where the names of some type parameters count as values. -/
abbrev KindFunction := ModulePath → List Name → Ty → Option TypeKind

namespace Compilation

variable (compilation : Compilation)

/-- The kind of what a path leads to, apart from the path's arguments. -/
def headKind? (ofAlias : KindFunction) (module : ModulePath) (path : Path) : Option TypeKind := do
  match ← compilation.resolvePath? module path .type with
  | .item aliasModule _ (.typeAlias ty parameters) => ofAlias aliasModule parameters ty
  | .item _ _ (.item .struct) => return .value
  | .item _ _ (.item .enumeration) => return .value
  | .item _ _ (.item .union) => return .value
  | .builtin _ => return .value
  | .external crate path => if isSharedPointer crate path then return .reference else return .value
  | _ => none

def isParameter (parameters : List Name) (path : Path) : Bool :=
  match path.name? with
  | some name => name.isWord "Self" || parameters.contains name
  | none => false

/-- The kind of a path, given the kinds of its last segment's type arguments. -/
def pathKind? (ofAlias : KindFunction) (module : ModulePath) (parameters : List Name) (path : Path)
    (arguments : List (Option TypeKind)) : Option TypeKind :=
  if isParameter parameters path then TypeKind.join arguments
  else
    match compilation.headKind? ofAlias module path with
    | none => none
    | some own => TypeKind.join (some own :: arguments)

mutual
/-- The kind of a type, following aliases with `ofAlias`. -/
def kindWith? (ofAlias : KindFunction) (module : ModulePath) (parameters : List Name) :
    Ty → Option TypeKind
  | .reference _ _ _ => some .reference
  | .pointer _ _ => some .reference
  | .grouped inner => kindWith? ofAlias module parameters inner
  | .array item _ => kindWith? ofAlias module parameters item
  | .slice item => kindWith? ofAlias module parameters item
  | .tuple items _ => TypeKind.join (kindsWith ofAlias module parameters items)
  | .path (.mk global segments) =>
    compilation.pathKind? ofAlias module parameters (.mk global segments)
      (lastKindsWith ofAlias module parameters segments)
  | _ => none

def kindsWith (ofAlias : KindFunction) (module : ModulePath) (parameters : List Name) :
    List Ty → List (Option TypeKind)
  | [] => []
  | head :: tail =>
    kindWith? ofAlias module parameters head :: kindsWith ofAlias module parameters tail

def lastKindsWith (ofAlias : KindFunction) (module : ModulePath) (parameters : List Name) :
    List Segment → List (Option TypeKind)
  | [] => []
  | [.mk _ (.angled _ arguments _)] => argumentKindsWith ofAlias module parameters arguments
  | [.mk _ _] => []
  | _ :: tail => lastKindsWith ofAlias module parameters tail

def argumentKindsWith (ofAlias : KindFunction) (module : ModulePath) (parameters : List Name) :
    List Argument → List (Option TypeKind)
  | [] => []
  | .type ty :: tail =>
    kindWith? ofAlias module parameters ty :: argumentKindsWith ofAlias module parameters tail
  | _ :: tail => argumentKindsWith ofAlias module parameters tail
end

/-- The kind of a type where this many aliases can be followed from one another. -/
def kindAtDepth? : (depth : Nat) → KindFunction
  | 0 => compilation.kindWith? fun _ _ _ => none
  | depth + 1 => compilation.kindWith? (kindAtDepth? depth)

/-- The kind of a type in a module; none if a part of it is unknown and no part is a reference. -/
def typeKind? (module : ModulePath) (ty : Ty) (parameters : List Name) : Option TypeKind :=
  compilation.kindAtDepth? maxDepth module parameters ty

end Compilation

end Wireform.Names
