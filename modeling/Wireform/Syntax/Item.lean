import Wireform.Syntax.Attribute

namespace Wireform.Syntax

/-! Items: what a module declares, and who can name the declarations. -/

open Wireform.Text Phrase

/-- Who can name a declaration: its own module and those inside it, everyone, or everyone below a
module that the path names from here. A `spelledOut` path is one that may have many segments. -/
inductive Visibility where
  | inherited
  | everywhere
  | restricted (spelledOut : Bool) (path : Path)
  deriving Inhabited

/-- A field of a struct. A field of a tuple struct has no name. -/
structure Field where
  attributes : List Attribute
  visibility : Visibility
  name : Option Name
  ty : Ty
  /-- Where the name stands, or the type if there is none. -/
  position : Position
  deriving Inhabited

inductive Predicate where
  | lifetime (name : Name) (bounds : List Name) (trailing : Bool)
  | type (binder : Option Binder) (ty : Ty) (bounds : List Bound) (trailing : Bool)

/-- The parameters of a declaration, lifetimes first. -/
structure Parameters where
  list : List Parameter
  trailing : Bool
  deriving Inhabited

structure Predicates where
  list : List Predicate
  trailing : Bool
  deriving Inhabited

structure Struct where
  attributes : List Attribute
  visibility : Visibility
  name : Name
  position : Position
  parameters : Parameters
  predicates : Predicates
  fields : List Field
  deriving Inhabited

/-- What a use declaration brings into scope. -/
inductive UseTree where
  | segment (name : Name) (rest : UseTree)
  | name (name : Name)
  | rename (name newName : Name)
  | everything
  | group (trees : List UseTree)
  deriving Inhabited

/-- Declarations of which only the kind and the name matter. -/
inductive DeclarationKind where
  | enumeration
  | union
  | trait
  | static
  | function
  | macroRules
  deriving DecidableEq, Repr, Inhabited

structure Method where
  name : Name
  position : Position
  deriving DecidableEq, Repr, Inhabited

inductive Item where
  | struct (declaration : Struct)
  | declaration (kind : DeclarationKind) (name : Name)
  | typeAlias (name : Name) (parameters : Parameters) (ty : Ty)
  | constant (name : Name) (ty : Ty) (value : Expr)
  /-- A module, with its items if they are written in place. -/
  | module (attributes : List Attribute) (visibility : Visibility) (name : Name)
      (content : Option (List Item))
  | use (global : Bool) (tree : UseTree)
  | externalCrate (name : Name) (newName : Option Name)
  | implementation (parameters : Parameters) (self : Ty) (methods : List Method)
  /-- An item that declares no name. -/
  | other
  deriving Inhabited

namespace Field

/-- The field's name as it is written, or its index in decimal. -/
def member (field : Field) (index : Nat) : String :=
  match field.name with
  | some name => name.spelling
  | none => toString index

end Field

/-! ## Phrases -/

namespace Predicate

def phrase : Predicate → Phrase
  | .lifetime name bounds trailing =>
    let bounds := match bounds with
      | [] => empty
      | bounds => blank ++ brokenPlusSeparated (bounds.map ofLifetime) trailing
    concat [ofLifetime name, mark ":", fill Layout.indent bounds]
  | .type binder ty bounds trailing =>
    let shift := if bounds.length = 1 then 0 else Layout.indent
    let bounds := match bounds with
      | [] => empty
      | bounds => blank ++ brokenPlusSeparated (bounds.map Bound.phrase) trailing
    concat [optionalBinderPhrase binder, ty.phrase, mark ":", fill shift bounds]

end Predicate

namespace Parameters

def phrase (parameters : Parameters) : Phrase :=
  if parameters.list.isEmpty then empty
  else
    concat [mark "<", items 0 (parameters.list.map Parameter.phrase) parameters.trailing, mark ">"]

def text (parameters : Parameters) : String := Tree.textList parameters.phrase.tokens

def typeNames (parameters : Parameters) : List Name :=
  parameters.list.filterMap fun
    | .type _ name _ _ _ => some name
    | _ => none

end Parameters

namespace Predicates

/-- A where clause with `between` around its keyword and behind its commas, and `last` after its
last predicate. -/
def clause (predicates : Predicates) (between : Gap) (last : Phrase) : Phrase :=
  concat [gap between.outward, word "where", gap between,
    joined (mark "," ++ gap between) (predicates.list.map Predicate.phrase), last]

/-- A where clause and the gap in front of a body. The body's box has to be indented. -/
def beforeBody (predicates : Predicates) : Phrase :=
  if predicates.list.isEmpty then blank
  else
    predicates.clause .lineEnd
      (concat [trailingMark "," predicates.trailing, shown [.text ","], gap Gap.lineEnd.outward])

def beforeSemicolon (predicates : Predicates) : Phrase :=
  if predicates.list.isEmpty then mark ";"
  else predicates.clause .lineEnd (trailingMark "," predicates.trailing ++ mark ";")

/-- A where clause in front of a definition, on one line if there is room. -/
def beforeDefinition (predicates : Predicates) : Phrase :=
  if predicates.list.isEmpty then blank
  else
    predicates.clause .blank
      (trailingMark "," predicates.trailing ++ gap Gap.blankAfterLast.outward)

/-- A where clause behind a definition, on one line if there is room, and the semicolon. -/
def afterDefinition (predicates : Predicates) : Phrase :=
  if predicates.list.isEmpty then mark ";"
  else predicates.clause .blank (trailingMark "," predicates.trailing ++ mark ";")

def text (predicates : Predicates) : String := Tree.textList predicates.beforeBody.tokens

end Predicates

end Wireform.Syntax
