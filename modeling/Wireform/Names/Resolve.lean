import Wireform.Names.Compilation

namespace Wireform.Names

/-! Path resolution. A name is looked up among the definitions of a module, then its imports, then
its globs, and for the first name of a path also among the crates and the built-in types. The
look-ups in progress are remembered, so that a cycle of imports leads to nothing. -/

open Wireform.Syntax

inductive Resolved where
  | module (path : ModulePath)
  | item (module : ModulePath) (name : String) (definition : Definition)
  | external (crate : ExternalCrate) (path : List String)
  | builtin (id : String)
  deriving Inhabited

def Resolved.symbol : Resolved → Symbol
  | .module path => ⟨path.qualifiedName, .module⟩
  | .item owner name definition => ⟨owner.qualifiedName ++ "::" ++ name, definition.kind⟩
  | .external crate path => ⟨"::" ++ String.intercalate "::" (crate.crateName :: path), .external⟩
  | .builtin id => ⟨id, .builtin⟩

/-- The types that every module can name without an import. -/
def builtinTypes : List (String × String) :=
  (["bool", "char", "str", "u8", "u16", "u32", "u64", "u128", "usize", "i8", "i16", "i32", "i64",
      "i128", "isize", "f32", "f64"].map fun name => (name, "::core::primitive::" ++ name)) ++
    [("String", "::alloc::string::String"), ("Vec", "::alloc::vec::Vec"),
      ("Box", "::alloc::boxed::Box"), ("Option", "::core::option::Option"),
      ("Result", "::core::result::Result")]

/-- How many look-ups, aliases or constants can be followed from one another. -/
def maxDepth : Nat := 32

structure Lookup where
  module : ModulePath
  name : String
  space : Namespace
  deriving DecidableEq, Repr

/-- Looks a name up in a module. Only the first name of a path is looked up `lexically`. -/
abbrev LookupFunction := Lookup → (lexical : Bool) → Option Resolved

namespace Resolved

/-- The member of what the names before it lead to. -/
def member? (lookup : LookupFunction) (parent : Resolved) (name : String) (space : Namespace) :
    Option Resolved :=
  match parent with
  | .module path =>
    if name = "self" then some (.module path)
    else if name = "super" then path.parent?.map .module
    else lookup ⟨path, name, space⟩ false
  | .external crate path =>
    if crate.exportsPath (path ++ [name]) then some (.external crate (path ++ [name])) else none
  | .item _ _ _ => none
  | .builtin _ => none

/-- The namespace in which a name is looked up that is followed by these: only the last name of a
path is looked up in the path's own namespace. -/
def spaceBefore (rest : List String) (space : Namespace) : Namespace :=
  if rest.isEmpty then space else .type

def members? (lookup : LookupFunction) (space : Namespace) :
    Resolved → List String → Option Resolved
  | parent, [] => some parent
  | parent, name :: rest => do
    let found ← member? lookup parent name (spaceBefore rest space)
    members? lookup space found rest

end Resolved

namespace Compilation

variable (compilation : Compilation)

def first? (lookup : LookupFunction) (module : ModulePath) (name : String) (space : Namespace) :
    Option Resolved :=
  if name = "crate" then some (.module [])
  else if name = "self" then some (.module module)
  else if name = "super" then module.parent?.map .module
  else lookup ⟨module, name, space⟩ true

def follow? (lookup : LookupFunction) (module : ModulePath) (path : Target) (space : Namespace) :
    Option Resolved :=
  match path.segments with
  | [] => none
  | name :: rest => do
    let first ←
      if path.global then (compilation.crate? name).map fun external => .external external []
      else first? lookup module name (Resolved.spaceBefore rest space)
    Resolved.members? lookup space first rest

/-- What a module declares or imports under a name. -/
def lookupInModule? (lookup : LookupFunction) (key : Lookup) : Option Resolved :=
  let declarations := compilation.declarations
  match declarations.definition? key.module key.space key.name with
  | some .module => some (.module (key.module ++ [key.name]))
  | some definition => some (.item key.module key.name definition)
  | none =>
    let imported := (declarations.imports key.module key.name).findSome? fun target =>
      compilation.follow? lookup key.module target key.space
    imported.or <| (declarations.globs key.module).findSome? fun target => do
      let source ← compilation.follow? lookup key.module target .type
      source.member? lookup key.name key.space

/-- What every module can name: crates, names for crates, and built-in types. -/
def lookupEverywhere? (lookup : LookupFunction) (name : String) : Option Resolved :=
  match compilation.crate? name with
  | some external => some (.external external [])
  | none =>
    match compilation.declarations.crateAlias? name with
    | some target => compilation.follow? lookup [] target .type
    | none => (builtinTypes.lookup name).map .builtin

/-- Looks a name up. `visiting` holds the look-ups in progress, and `depth` says how many more there
may be. -/
def lookup? : (depth : Nat) → (visiting : List Lookup) → LookupFunction
  | 0, _, _, _ => none
  | depth + 1, visiting, key, lexical =>
    if visiting.contains key then none
    else
      let inner := lookup? depth (key :: visiting)
      (compilation.lookupInModule? inner key).or
        (if lexical && key.space = .type then compilation.lookupEverywhere? inner key.name
          else none)

def resolve? (module : ModulePath) (path : Target) (space : Namespace) : Option Resolved :=
  compilation.follow? (compilation.lookup? maxDepth []) module path space

end Compilation

/-! ## Longer paths -/

def Target.member (path : Target) (name : String) : Target :=
  ⟨path.global, path.segments ++ [name]⟩

namespace Resolved

@[simp] theorem spaceBefore_type (rest : List String) : spaceBefore rest .type = .type := by
  unfold spaceBefore
  split <;> rfl

@[simp] theorem spaceBefore_concat (rest : List String) (name : String) (space : Namespace) :
    spaceBefore (rest ++ [name]) space = .type := by
  cases rest <;> rfl

theorem members?_concat (lookup : LookupFunction) (space : Namespace) (name : String)
    (names : List String) : ∀ parent, members? lookup space parent (names ++ [name]) =
      (members? lookup .type parent names).bind fun between =>
        member? lookup between name space := by
  induction names with
  | nil =>
    intro parent
    simp only [List.nil_append, members?, bind, spaceBefore, List.isEmpty_nil, if_true,
      Option.bind_some, Option.bind_fun_some]
  | cons first rest induction =>
    intro parent
    simp only [List.cons_append, members?, bind, spaceBefore_concat, spaceBefore_type, induction,
      Option.bind_assoc]

end Resolved

namespace Compilation

variable (compilation : Compilation)

/-- The last name of a path names a member of what is in front of it. -/
theorem follow?_member (lookup : LookupFunction) (module : ModulePath) {path : Target}
    (nonempty : path.segments ≠ []) (name : String) (space : Namespace) :
    compilation.follow? lookup module (path.member name) space =
      (compilation.follow? lookup module path .type).bind fun parent =>
        parent.member? lookup name space := by
  rcases path with ⟨global, segments⟩
  cases segments with
  | nil => exact absurd rfl nonempty
  | cons first rest =>
    cases global <;>
      simp only [follow?, Target.member, List.cons_append, Resolved.spaceBefore_concat,
        Resolved.spaceBefore_type, Resolved.members?_concat, bind, Option.bind_assoc, if_true,
        Bool.false_eq_true, if_false]

theorem resolve?_member {module : ModulePath} {path : Target} {parent : Resolved}
    (resolved : compilation.resolve? module path .type = some parent) (name : String)
    (space : Namespace) : compilation.resolve? module (path.member name) space =
      parent.member? (compilation.lookup? maxDepth []) name space := by
  have nonempty : path.segments ≠ [] := by
    intro empty
    simp only [resolve?, follow?, empty] at resolved
    cases resolved
  unfold resolve? at resolved ⊢
  rw [follow?_member _ _ _ nonempty, resolved, Option.bind_some]

end Compilation

def Target.ofPath (path : Path) : Target := ⟨path.global, path.names.map Name.text⟩

namespace Compilation

variable (compilation : Compilation)

def resolvePath? (module : ModulePath) (path : Path) (space : Namespace) : Option Resolved :=
  compilation.resolve? module (.ofPath path) space

def symbol? (module : ModulePath) (path : Path) (space : Namespace) : Option Symbol :=
  (compilation.resolvePath? module path space).map Resolved.symbol

/-- A method, and the file that it stands in. -/
structure MethodReference where
  file : String
  method : Method
  deriving Repr

/-- The methods of all implementations for a type, by the type's identity. -/
def methodsOf (id : String) : List MethodReference :=
  compilation.declarations.flatMap fun
    | .implementation module file (.path path) methods =>
      match compilation.symbol? module path .type with
      | some symbol => if symbol.id = id then methods.map (⟨file, ·⟩) else []
      | none => []
    | _ => []

end Compilation

end Wireform.Names
