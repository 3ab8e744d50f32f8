import Wireform.Names.Resolve

/-! # Sight past a glob

What a compilation finds is seen past a glob that is added to one of its modules: a name leads to
nothing, or it leads where it led before, or the glob answers first and hides where it led. All of
this is seen in the compilation without the glob. -/

namespace Wireform.Names

open Wireform.Syntax

/-- A glob that is added to a module, behind this many facts of the crate. -/
structure AddedGlob where
  module : ModulePath
  target : Target
  position : Nat
  deriving DecidableEq, Repr

namespace AddedGlob

variable (added : AddedGlob)

def insert (declarations : Declarations) : Declarations :=
  declarations.take added.position ++
    .glob added.module added.target :: declarations.drop added.position

end AddedGlob

def Compilation.withGlob (compilation : Compilation) (added : AddedGlob) : Compilation :=
  { compilation with declarations := added.insert compilation.declarations }

/-- What the compilation would find, seen past an added glob. -/
inductive Sight where
  | nothing
  | clear (found : Resolved)
  /-- The glob answers first. -/
  | hidden

namespace Sight

def isHidden : Sight → Bool
  | .hidden => true
  | _ => false

def ofOption : Option Resolved → Sight
  | none => .nothing
  | some found => .clear found

def orElse : Sight → Sight → Sight
  | .nothing, other => other
  | sight, _ => sight

/-- What is hidden stays hidden: an opaque crate has every member. -/
def bind : Sight → (Resolved → Sight) → Sight
  | .nothing, _ => .nothing
  | .clear found, next => next found
  | .hidden, _ => .hidden

def firstOf {α : Type} (see : α → Sight) : List α → Sight
  | [] => .nothing
  | head :: tail => (see head).orElse (firstOf see tail)

end Sight

/-! ## Seeing past a glob

The rules of path resolution once more, for a compilation without the glob. The glob comes in at one
place, among the globs of its module. -/

abbrev SightFunction := Lookup → (lexical : Bool) → Sight

namespace Resolved

def memberSight (look : SightFunction) (parent : Resolved) (name : String) (space : Namespace) :
    Sight :=
  match parent with
  | .module path =>
    if name = "self" then .clear (.module path)
    else if name = "super" then .ofOption (path.parent?.map .module)
    else look ⟨path, name, space⟩ false
  | .external crate path =>
    if crate.exportsPath (path ++ [name]) then .clear (.external crate (path ++ [name]))
    else .nothing
  | .item _ _ _ => .nothing
  | .builtin _ => .nothing

def membersSight (look : SightFunction) (space : Namespace) : Resolved → List String → Sight
  | parent, [] => .clear parent
  | parent, name :: rest =>
    (memberSight look parent name (spaceBefore rest space)).bind fun found =>
      membersSight look space found rest

end Resolved

namespace AddedGlob

variable (added : AddedGlob) (compilation : Compilation)

def firstSight (look : SightFunction) (module : ModulePath) (name : String) (space : Namespace) :
    Sight :=
  if name = "crate" then .clear (.module [])
  else if name = "self" then .clear (.module module)
  else if name = "super" then .ofOption (module.parent?.map .module)
  else look ⟨module, name, space⟩ true

def followSight (look : SightFunction) (module : ModulePath) (path : Target) (space : Namespace) :
    Sight :=
  match path.segments with
  | [] => .nothing
  | name :: rest =>
    let first :=
      if path.global then
        .ofOption ((compilation.crate? name).map fun external => .external external [])
      else firstSight look module name (Resolved.spaceBefore rest space)
    first.bind fun found => Resolved.membersSight look space found rest

/-- What a glob of a module shows of a name. -/
def globSight (look : SightFunction) (key : Lookup) (target : Target) : Sight :=
  (followSight compilation look key.module target .type).bind fun source =>
    source.memberSight look key.name key.space

/-- The added glob hides every name of its module, as long as it leads anywhere. -/
def ownSight (look : SightFunction) (key : Lookup) : Sight :=
  if key.module = added.module then
    (followSight compilation look added.module added.target .type).bind fun _ => .hidden
  else .nothing

def sightInModule (look : SightFunction) (key : Lookup) : Sight :=
  let declarations := compilation.declarations
  match declarations.definition? key.module key.space key.name with
  | some .module => .clear (.module (key.module ++ [key.name]))
  | some definition => .clear (.item key.module key.name definition)
  | none =>
    let imported := Sight.firstOf
      (fun target => followSight compilation look key.module target key.space)
      (declarations.imports key.module key.name)
    let globs (part : Declarations) :=
      Sight.firstOf (globSight compilation look key) (part.globs key.module)
    imported.orElse <| (globs (declarations.take added.position)).orElse <|
      (added.ownSight compilation look key).orElse (globs (declarations.drop added.position))

def sightEverywhere (look : SightFunction) (name : String) : Sight :=
  match compilation.crate? name with
  | some external => .clear (.external external [])
  | none =>
    match compilation.declarations.crateAlias? name with
    | some target => followSight compilation look [] target .type
    | none => .ofOption ((builtinTypes.lookup name).map .builtin)

def look : (depth : Nat) → (visiting : List Lookup) → SightFunction
  | 0, _, _, _ => .nothing
  | depth + 1, visiting, key, lexical =>
    if visiting.contains key then .nothing
    else
      let inner := look depth (key :: visiting)
      (added.sightInModule compilation inner key).orElse
        (if lexical && key.space = .type then sightEverywhere compilation inner key.name
          else .nothing)

/-- What is seen of a path past the added glob. -/
def sight (module : ModulePath) (path : Target) (space : Namespace) : Sight :=
  followSight compilation (added.look compilation maxDepth []) module path space

/-- Whether the added glob hides what a path leads to. -/
def hides (module : ModulePath) (path : Target) (space : Namespace) : Bool :=
  (added.sight compilation module path space).isHidden

/-- The target of the glob lies in a crate of which nothing is known, if it is followed to its end. -/
def LeadsOpaqueBy (lookup : LookupFunction) : Prop :=
  ∀ found, compilation.follow? lookup added.module added.target .type = some found →
    ∃ external ∈ compilation.crates, external.exports = none ∧
      ∃ path, found = .external external path

def LeadsOpaque : Prop :=
  ∀ depth visiting, added.LeadsOpaqueBy compilation (compilation.lookup? depth visiting)

end AddedGlob

/-! ## What is found with the glob and without it -/

/-- What is seen past a glob says what is found without it and with it. -/
inductive Sight.Matches (crates : List ExternalCrate) :
    Sight → (without withGlob : Option Resolved) → Prop where
  | nothing : Matches crates .nothing none none
  | clear (found : Resolved) : Matches crates (.clear found) (some found) (some found)
  | hidden {without : Option Resolved} {external : ExternalCrate} (path : List String)
      (known : external ∈ crates) (closed : external.exports = none) :
      Matches crates .hidden without (some (.external external path))

namespace Sight.Matches

variable {crates : List ExternalCrate} {sight other : Sight}
  {without withGlob otherWithout otherWithGlob : Option Resolved}

theorem ofOption (found : Option Resolved) : Matches crates (.ofOption found) found found := by
  cases found with
  | none => exact .nothing
  | some found => exact .clear found

theorem orElse (first : Matches crates sight without withGlob)
    (second : Matches crates other otherWithout otherWithGlob) :
    Matches crates (sight.orElse other) (without.or otherWithout) (withGlob.or otherWithGlob) := by
  cases first with
  | nothing => simpa only [Sight.orElse, Option.none_or] using second
  | clear found => exact .clear found
  | hidden path known closed => exact .hidden path known closed

theorem bind {see : Resolved → Sight} {next nextWithGlob : Resolved → Option Resolved}
    (first : Matches crates sight without withGlob)
    (second : ∀ found, Matches crates (see found) (next found) (nextWithGlob found))
    (stays : ∀ external path, external.exports = none →
      ∃ longer, nextWithGlob (.external external path) = some (.external external longer)) :
    Matches crates (sight.bind see) (without.bind next) (withGlob.bind nextWithGlob) := by
  cases first with
  | nothing => exact .nothing
  | clear found => exact second found
  | hidden path known closed =>
    rcases stays _ path closed with ⟨longer, leads⟩
    rw [Option.bind_some, leads]
    exact .hidden longer known closed

theorem findSome?_cons_eq_or {α β : Type} (find : α → Option β) (value : α) (values : List α) :
    (value :: values).findSome? find = (find value).or (values.findSome? find) := by
  rw [List.findSome?_cons]
  cases find value <;> rfl

theorem firstOf {α : Type} {see : α → Sight} {find findWithGlob : α → Option Resolved}
    (each : ∀ value, Matches crates (see value) (find value) (findWithGlob value))
    (values : List α) :
    Matches crates (Sight.firstOf see values) (values.findSome? find)
      (values.findSome? findWithGlob) := by
  induction values with
  | nil => exact .nothing
  | cons value values induction =>
    rw [findSome?_cons_eq_or, findSome?_cons_eq_or]
    exact (each value).orElse induction

end Sight.Matches

end Wireform.Names
