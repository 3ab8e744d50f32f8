import Wireform.Syntax.Item
import Wireform.Names.Symbol

namespace Wireform.Names

/-! Declarations: the items of a crate flattened to a list of facts about its modules. The order is
that of the source, and where two facts compete the first one counts, so a table of names is no more
than this list. -/

open Wireform.Syntax

/-- A path that a use declaration or an external crate declaration gives a name to. -/
structure Target where
  /-- Whether the path starts at the external crates. -/
  global : Bool
  segments : List String
  deriving DecidableEq, Repr, Inhabited

inductive Definition where
  | module
  | item (kind : SymbolKind)
  | typeAlias (ty : Ty) (parameters : List Name)
  | constant (ty : Ty) (value : Expr)
  deriving Inhabited

def Definition.kind : Definition → SymbolKind
  | .module => .module
  | .item kind => kind
  | .typeAlias _ _ => .typeAlias
  | .constant _ _ => .constant

inductive Declaration where
  /-- There is a module of this name inside another. -/
  | module (parent : ModulePath) (name : String)
  /-- The visibility written where the module is declared. -/
  | visibility (module : ModulePath) (visible : Visibility)
  | definition (module : ModulePath) (space : Namespace) (name : String) (definition : Definition)
  | importing (module : ModulePath) (name : String) (target : Target)
  | glob (module : ModulePath) (target : Target)
  /-- A name for an external crate that every module sees. -/
  | crateAlias (name : String) (target : Target)
  /-- An implementation: the file it stands in, the type it is for, and its methods. -/
  | implementation (module : ModulePath) (file : String) (self : Ty) (methods : List Method)

/-- A module and all modules around it exist. -/
def Declaration.ofPath (path : ModulePath) : List Declaration :=
  (List.range path.length).filterMap fun depth =>
    path[depth]?.map fun name => .module (path.take depth) name

/-- What one tree of a use declaration brings into a module. `before` holds the names that lead to
the tree. -/
def Declaration.ofUse (module : ModulePath) (global : Bool) :
    (before : List String) → UseTree → List Declaration
  | before, .segment name rest => ofUse module global (before ++ [name.text]) rest
  | before, .name name =>
    if name.isWord "self" then
      match before.getLast? with
      | some last => [.importing module last ⟨global, before⟩]
      | none => []
    else [.importing module name.text ⟨global, before ++ [name.text]⟩]
  | before, .rename name newName =>
    let segments := if name.isWord "self" then before else before ++ [name.text]
    if newName.isWord "_" then [] else [.importing module newName.text ⟨global, segments⟩]
  | before, .everything => [.glob module ⟨global, before⟩]
  | before, .group trees => ofGroup before trees
where
  ofGroup : (before : List String) → List UseTree → List Declaration
    | _, [] => []
    | before, head :: tail => ofUse module global before head ++ ofGroup before tail

/-- What an external crate declaration brings into a module. At the root it also brings its name to
all modules. -/
def Declaration.ofExternalCrate (module : ModulePath) (name : Name) (newName : Option Name) :
    List Declaration :=
  let declared := newName.getD name
  let target : Target :=
    if name.isWord "self" then ⟨false, ["crate"]⟩ else ⟨true, [name.text]⟩
  if declared.isWord "_" then []
  else
    (if module.isEmpty then [.crateAlias declared.text target] else []) ++
      [.importing module declared.text target]

def symbolOf : DeclarationKind → Namespace × SymbolKind
  | .enumeration => (.type, .enumeration)
  | .union => (.type, .union)
  | .trait => (.type, .trait)
  | .static => (.value, .static)
  | .function => (.value, .function)
  | .macroRules => (.macro_, .macroRules)

mutual
def Declaration.ofItem (file : String) (module : ModulePath) : Item → List Declaration
  | .struct declaration => [.definition module .type declaration.name.text (.item .struct)]
  | .declaration kind name =>
    let (space, symbol) := symbolOf kind
    [.definition module space name.text (.item symbol)]
  | .typeAlias name parameters ty =>
    [.definition module .type name.text (.typeAlias ty parameters.typeNames)]
  | .constant name ty value => [.definition module .value name.text (.constant ty value)]
  | .module _ visible name content =>
    let inner := module ++ [name.text]
    .module module name.text :: .visibility inner visible ::
      (match content with
        | some items => ofItems file inner items
        | none => [])
  | .use global tree => ofUse module global [] tree
  | .externalCrate name newName => ofExternalCrate module name newName
  | .implementation _ self methods => [.implementation module file self methods]
  | .other => []

def Declaration.ofItems (file : String) (module : ModulePath) : List Item → List Declaration
  | [] => []
  | head :: tail => ofItem file module head ++ ofItems file module tail
end

/-! ## Looking facts up -/

abbrev Declarations := List Declaration

namespace Declarations

def hasModule (declarations : Declarations) (path : ModulePath) : Bool :=
  path.isEmpty || declarations.any fun
    | .module parent name => parent ++ [name] = path
    | _ => false

/-- What a name is first declared as in a module. -/
def definition? (declarations : Declarations) (path : ModulePath) (space : Namespace)
    (name : String) : Option Definition :=
  declarations.findSome? fun
    | .module parent other =>
      if parent = path ∧ space = .type ∧ other = name then some .module else none
    | .definition module otherSpace other definition =>
      if module = path ∧ otherSpace = space ∧ other = name then some definition else none
    | _ => none

def imports (declarations : Declarations) (path : ModulePath) (name : String) : List Target :=
  declarations.filterMap fun
    | .importing module other target => if module = path ∧ other = name then some target else none
    | _ => none

def globs (declarations : Declarations) (path : ModulePath) : List Target :=
  declarations.filterMap fun
    | .glob module target => if module = path then some target else none
    | _ => none

/-- The last external crate that was given a name for all modules. -/
def crateAlias? (declarations : Declarations) (name : String) : Option Target :=
  (declarations.filterMap fun
    | .crateAlias other target => if other = name then some target else none
    | _ => none).getLast?

/-- The visibility with which a module is first declared. -/
def visibility? (declarations : Declarations) (path : ModulePath) : Option Visibility :=
  declarations.findSome? fun
    | .visibility module visible => if module = path then some visible else none
    | _ => none

end Declarations

end Wireform.Names
