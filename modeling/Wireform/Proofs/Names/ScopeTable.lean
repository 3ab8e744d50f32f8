import Mathlib.Data.List.Basic
import Mathlib.Data.List.Induction
import Wireform.Proofs.Names.Origin

/-! # The table of scopes

Modules have scopes, numbered in the order in which the sources introduce them: the place of a unit
introduces the modules on the way to it, and an item the module that it declares. A path is found by
an index, and what a scope defines by the order in which it was defined. All that the table knows is
what the facts of the crate say, and it is kept true by every step of the walk over the sources. -/

namespace Wireform.Names

open Wireform.Syntax

/-- What a scope defines a name as: a module with a scope of its own, or an item. -/
inductive ScopeEntry where
  | scope (number : Nat)
  | item (definition : Definition)

structure Scope where
  path : ModulePath
  parent : Option Nat
  entries : List ((Namespace × String) × ScopeEntry)

/-- Defines a name, unless it is already defined. -/
def Scope.define (scope : Scope) (key : Namespace × String) (entry : ScopeEntry) : Scope :=
  if (scope.entries.lookup key).isSome then scope
  else { scope with entries := scope.entries ++ [(key, entry)] }

namespace Scope

@[simp] theorem path_define (scope : Scope) (key : Namespace × String) (entry : ScopeEntry) :
    (scope.define key entry).path = scope.path := by
  unfold define
  split <;> rfl

@[simp] theorem parent_define (scope : Scope) (key : Namespace × String) (entry : ScopeEntry) :
    (scope.define key entry).parent = scope.parent := by
  unfold define
  split <;> rfl

theorem lookup_define (scope : Scope) (key other : Namespace × String) (entry : ScopeEntry) :
    (scope.define key entry).entries.lookup other =
      (scope.entries.lookup other).or (if other = key then some entry else none) := by
  unfold define
  by_cases defined : (scope.entries.lookup key).isSome = true
  · rw [if_pos defined]
    by_cases same : other = key
    · rcases Option.isSome_iff_exists.mp defined with ⟨first, found⟩
      rw [same, found, Option.some_or]
    · rw [if_neg same, Option.or_none]
  · rw [if_neg defined, List.lookup_append, List.lookup_cons]
    by_cases same : other = key
    · simp [same]
    · simp [beq_eq_false_iff_ne.mpr same, same]

end Scope

/-- The scopes by their numbers, and the numbers by the paths of the modules. -/
structure ScopeTable where
  scopes : List Scope
  index : List (ModulePath × Nat)

namespace ScopeTable

def initial : ScopeTable := ⟨[⟨[], none, []⟩], [([], 0)]⟩

def number? (table : ScopeTable) (path : ModulePath) : Option Nat := table.index.lookup path

def pathOf (table : ScopeTable) (number : Nat) : ModulePath :=
  (table.scopes[number]?.map Scope.path).getD []

def define (table : ScopeTable) (number : Nat) (key : Namespace × String) (entry : ScopeEntry) :
    ScopeTable :=
  { table with scopes := table.scopes.modify number (·.define key entry) }

/-- Adds the scope of a module inside another one, which then defines it. -/
def add (table : ScopeTable) (parent : Nat) (path : ModulePath) (name : String) : ScopeTable :=
  let number := table.scopes.length
  { scopes := table.scopes ++ [⟨path, some parent, []⟩], index := (path, number) :: table.index :
    ScopeTable }.define parent (.type, name) (.scope number)

/-- The entry for a definition. A module is entered by the number of its scope. -/
def entryFor? (table : ScopeTable) (inner : ModulePath) : Definition → Option ScopeEntry
  | .module => (table.number? inner).map .scope
  | .item kind => some (.item (.item kind))
  | .typeAlias ty parameters => some (.item (.typeAlias ty parameters))
  | .constant ty value => some (.item (.constant ty value))

end ScopeTable

namespace Declarations

variable {facts more : Declarations} {path : ModulePath} {space : Namespace} {name : String}

theorem hasModule_append : (facts ++ more).hasModule path =
    (facts.hasModule path || more.hasModule path) := by
  simp only [hasModule, List.any_append]
  cases path.isEmpty <;> simp

theorem definition?_append : (facts ++ more).definition? path space name =
    (facts.definition? path space name).or (more.definition? path space name) :=
  List.findSome?_append

theorem definition?_isSome_of_mem (among : .module path name ∈ facts) :
    (facts.definition? path .type name).isSome = true := by
  rw [definition?, List.findSome?_isSome_iff]
  exact ⟨_, among, by simp⟩

theorem hasModule_module {outer : ModulePath} :
    hasModule [.module outer name] path = (path.isEmpty || decide (outer ++ [name] = path)) := by
  simp [hasModule]

theorem hasModule_definition {owner : ModulePath} {definition : Definition} :
    hasModule [.definition owner space name definition] path = path.isEmpty := by
  simp [hasModule]

/-- Facts that define one name. -/
def Defines (facts : Declarations) (owner : ModulePath) (space : Namespace) (name : String)
    (definition : Definition) : Prop :=
  ∀ path other written, facts.definition? path other written =
    if owner = path ∧ space = other ∧ name = written then some definition else none

theorem defines_module (outer : ModulePath) (name : String) :
    Defines [.module outer name] outer .type name .module := by
  intro path other written
  simp only [definition?, List.findSome?_cons, List.findSome?_nil]
  split <;> simp_all

theorem defines_definition (owner : ModulePath) (space : Namespace) (name : String)
    (definition : Definition) :
    Defines [.definition owner space name definition] owner space name definition := by
  intro path other written
  simp only [definition?, List.findSome?_cons, List.findSome?_nil]
  split <;> simp_all

/-- Names are defined in modules that exist, and so are the modules that they stand for. -/
structure Housed (facts : Declarations) : Prop where
  owner : ∀ path space name, (facts.definition? path space name).isSome = true →
    facts.hasModule path = true
  module : ∀ path space name, facts.definition? path space name = some .module →
    space = .type ∧ facts.hasModule (path ++ [name]) = true

theorem Housed.append {owner : ModulePath} {definition : Definition} (housed : facts.Housed)
    (defines : more.Defines owner space name definition) (known : facts.hasModule owner = true)
    (isModule : definition = .module →
      space = .type ∧ more.hasModule (owner ++ [name]) = true) : (facts ++ more).Housed where
  owner path other written defined := by
    rw [definition?_append, defines path other written, Option.isSome_or, Bool.or_eq_true]
      at defined
    rw [hasModule_append, Bool.or_eq_true]
    left
    rcases defined with earlier | own
    · exact housed.owner _ _ _ earlier
    · rcases Option.isSome_iff_exists.mp own with ⟨_, own⟩
      rw [← (Option.ite_none_right_eq_some.mp own).1.1]
      exact known
  module path other written defined := by
    rw [definition?_append, defines path other written] at defined
    rw [hasModule_append, Bool.or_eq_true]
    rcases Option.or_eq_some_iff.mp defined with earlier | ⟨_, own⟩
    · rcases housed.module _ _ _ earlier with ⟨isType, known⟩
      exact ⟨isType, .inl known⟩
    · rcases Option.ite_none_right_eq_some.mp own with ⟨⟨rfl, rfl, rfl⟩, same⟩
      rcases isModule (Option.some.inj same) with ⟨isType, introduced⟩
      exact ⟨isType, .inr introduced⟩

theorem Housed.outer {outer : ModulePath} (housed : facts.Housed)
    (known : facts.hasModule (outer ++ [name]) = true) : facts.hasModule outer = true :=
  housed.owner _ _ _ (definition?_isSome_of_mem (mem_of_hasModule known))

/-- Facts that neither introduce a module nor define a name. -/
def Silent (facts : Declarations) : Prop := ∀ declaration ∈ facts,
  (∀ path name, declaration ≠ .module path name) ∧
    ∀ path space name definition, declaration ≠ .definition path space name definition

theorem Silent.hasModule_append (silent : more.Silent) :
    (facts ++ more).hasModule path = facts.hasModule path := by
  rw [Declarations.hasModule_append]
  cases path with
  | nil => rfl
  | cons first rest =>
    have none : more.hasModule (first :: rest) = false := by
      rw [hasModule, List.isEmpty_cons, Bool.false_or, List.any_eq_false]
      intro declaration among
      cases declaration with
      | module outer written => exact absurd rfl ((silent _ among).1 outer written)
      | _ => simp
    rw [none, Bool.or_false]

theorem Silent.definition?_append (silent : more.Silent) :
    (facts ++ more).definition? path space name = facts.definition? path space name := by
  have none : more.definition? path space name = none := by
    rw [definition?, List.findSome?_eq_none_iff]
    intro declaration among
    cases declaration with
    | module outer written => exact absurd rfl ((silent _ among).1 outer written)
    | definition owner other written definition =>
      exact absurd rfl ((silent _ among).2 owner other written definition)
    | _ => rfl
  rw [Declarations.definition?_append, none, Option.or_none]

end Declarations

namespace ScopeTable

variable {table : ScopeTable} {facts more : Declarations}

theorem number?_add (parent : Nat) (path : ModulePath) (name : String) (other : ModulePath) :
    (table.add parent path name).number? other =
      if other = path then some table.scopes.length else table.number? other := by
  change List.lookup other ((path, table.scopes.length) :: table.index) = _
  rw [List.lookup_cons]
  by_cases same : other = path
  · simp [same]
  · simp [beq_eq_false_iff_ne.mpr same, same, number?]

theorem getElem?_define (number : Nat) (key : Namespace × String) (entry : ScopeEntry)
    (other : Nat) :
    (table.define number key entry).scopes[other]? =
      table.scopes[other]?.map fun scope =>
        if number = other then scope.define key entry else scope :=
  List.getElem?_modify _ _ _ _

theorem exists_of_getElem?_define {number other : Nat} {key : Namespace × String}
    {entry : ScopeEntry} {scope : Scope}
    (found : (table.define number key entry).scopes[other]? = some scope) :
    ∃ old, table.scopes[other]? = some old ∧ scope.path = old.path ∧ scope.parent = old.parent ∧
      ∀ wanted, scope.entries.lookup wanted = (old.entries.lookup wanted).or
        (if number = other ∧ wanted = key then some entry else none) := by
  rw [getElem?_define, Option.map_eq_some_iff] at found
  rcases found with ⟨old, found, rfl⟩
  refine ⟨old, found, ?_⟩
  by_cases own : number = other
  · rw [if_pos own]
    refine ⟨Scope.path_define _ _ _, Scope.parent_define _ _ _, ?_⟩
    intro wanted
    simp [Scope.lookup_define, own]
  · rw [if_neg own]
    simp [own]

theorem getElem?_define_path (number other : Nat) (key : Namespace × String) (entry : ScopeEntry) :
    (table.define number key entry).scopes[other]?.map Scope.path =
      table.scopes[other]?.map Scope.path := by
  rw [getElem?_define, Option.map_map]
  congr 1
  funext scope
  simp only [Function.comp_apply]
  split <;> simp

theorem getElem?_add_path (parent : Nat) (path : ModulePath) (name : String) (number : Nat) :
    (table.add parent path name).scopes[number]?.map Scope.path =
      if number = table.scopes.length then some path
      else table.scopes[number]?.map Scope.path := by
  refine (getElem?_define_path parent number (.type, name) (.scope table.scopes.length)).trans ?_
  by_cases last : number = table.scopes.length
  · simp [last]
  · rw [if_neg last]
    by_cases within : number < table.scopes.length
    · rw [List.getElem?_append_left within]
    · rw [List.getElem?_eq_none (by simp; omega), List.getElem?_eq_none (by omega)]

theorem exists_of_getElem?_add {parent number : Nat} {path : ModulePath} {name : String}
    {scope : Scope} (found : (table.add parent path name).scopes[number]? = some scope)
    (within : parent < table.scopes.length) :
    number = table.scopes.length ∧ scope = ⟨path, some parent, []⟩ ∨
      ∃ old, table.scopes[number]? = some old ∧ scope.path = old.path ∧ scope.parent = old.parent ∧
        ∀ wanted, scope.entries.lookup wanted = (old.entries.lookup wanted).or
          (if parent = number ∧ wanted = (.type, name) then some (.scope table.scopes.length)
            else none) := by
  by_cases last : number = table.scopes.length
  · left
    refine ⟨last, ?_⟩
    rw [add, getElem?_define, last, List.getElem?_concat_length, Option.map_some,
      if_neg (Nat.ne_of_lt within)] at found
    exact (Option.some.inj found).symm
  · right
    rcases exists_of_getElem?_define found with ⟨old, inExtended, kept⟩
    refine ⟨old, ?_, kept⟩
    have bound := (List.getElem?_eq_some_iff.mp inExtended).1
    rw [List.length_append, List.length_singleton] at bound
    rwa [List.getElem?_append_left (by omega)] at inExtended

theorem entryFor?_define (number : Nat) (key : Namespace × String) (entry : ScopeEntry) :
    (table.define number key entry).entryFor? = table.entryFor? := by
  funext inner definition
  cases definition <;> rfl

theorem entryFor?_of_ne_module {definition : Definition} (item : definition ≠ .module)
    (inner : ModulePath) : table.entryFor? inner definition = some (.item definition) := by
  cases definition with
  | module => exact absurd rfl item
  | _ => rfl

theorem entryFor?_add {parent : Nat} {path inner : ModulePath} {name : String}
    {definition : Definition} (other : definition = .module → inner ≠ path) :
    (table.add parent path name).entryFor? inner definition =
      table.entryFor? inner definition := by
  cases definition with
  | module => rw [entryFor?, entryFor?, number?_add, if_neg (other rfl)]
  | _ => rfl

/-! ## What a table knows -/

/-- The table says of the modules what the facts say. -/
structure Describes (table : ScopeTable) (facts : Declarations) : Prop where
  number?_eq_some_iff : ∀ path number, table.number? path = some number ↔
    ∃ scope, table.scopes[number]? = some scope ∧ scope.path = path
  known : ∀ path, (table.number? path).isSome = facts.hasModule path
  parent : ∀ (number : Nat) (scope : Scope), table.scopes[number]? = some scope →
    scope.parent = scope.path.parent?.bind table.number?
  entries : ∀ (number : Nat) (scope : Scope), table.scopes[number]? = some scope → ∀ space name,
    scope.entries.lookup (space, name) =
      (facts.definition? scope.path space name).bind (table.entryFor? (scope.path ++ [name]))
  housed : facts.Housed

theorem describes_initial : initial.Describes [] where
  number?_eq_some_iff path number := by
    cases path <;> cases number <;> simp [initial, number?, List.lookup_cons]
  known path := by
    cases path <;> simp [initial, number?, List.lookup_cons, Declarations.hasModule]
  parent number scope numbered := by
    cases number with
    | zero =>
      cases numbered
      rfl
    | succ number => simp [initial] at numbered
  entries number scope numbered space name := by
    cases number with
    | zero =>
      cases numbered
      rfl
    | succ number => simp [initial] at numbered
  housed := ⟨nofun, nofun⟩

namespace Describes

theorem of_same (describes : table.Describes facts)
    (modules : ∀ path, more.hasModule path = facts.hasModule path)
    (definitions : ∀ path space name,
      more.definition? path space name = facts.definition? path space name) :
    table.Describes more := by
  refine ⟨describes.number?_eq_some_iff, ?_, describes.parent, ?_, ?_⟩
  · intro path
    rw [modules, describes.known]
  · intro number scope numbered space name
    rw [definitions, describes.entries number scope numbered]
  · refine ⟨?_, ?_⟩
    · intro path space name
      rw [modules, definitions]
      exact describes.housed.owner path space name
    · intro path space name
      rw [modules, definitions]
      exact describes.housed.module path space name

theorem append_silent (describes : table.Describes facts) (silent : more.Silent) :
    table.Describes (facts ++ more) :=
  describes.of_same (fun _ => silent.hasModule_append) fun _ _ _ => silent.definition?_append

theorem append_known (describes : table.Describes facts) {outer : ModulePath} {name : String}
    (known : facts.hasModule (outer ++ [name]) = true) :
    table.Describes (facts ++ [.module outer name]) := by
  apply describes.of_same
  · intro path
    rw [Declarations.hasModule_append, Declarations.hasModule_module]
    by_cases same : outer ++ [name] = path
    · rw [← same, known, Bool.true_or]
    · cases path <;> simp [same, Declarations.hasModule]
  · intro path space written
    rw [Declarations.definition?_append, Declarations.defines_module outer name path]
    by_cases same : outer = path ∧ .type = space ∧ name = written
    · rcases same with ⟨rfl, rfl, rfl⟩
      have defined :=
        Declarations.definition?_isSome_of_mem (Declarations.mem_of_hasModule known)
      rcases Option.isSome_iff_exists.mp defined with ⟨definition, found⟩
      rw [found, Option.some_or]
    · rw [if_neg same, Option.or_none]

theorem entryFor?_isSome (describes : table.Describes facts) {path : ModulePath}
    {space : Namespace} {name : String} {definition : Definition}
    (found : facts.definition? path space name = some definition) :
    (table.entryFor? (path ++ [name]) definition).isSome = true := by
  cases definition with
  | module =>
    rw [entryFor?, Option.isSome_map, describes.known]
    exact (describes.housed.module path space name found).2
  | _ => rfl

/-- Two scopes are never those of one module. -/
theorem number_eq_iff (describes : table.Describes facts) {path : ModulePath} {number other : Nat}
    {scope : Scope} (numbered : table.number? path = some number)
    (found : table.scopes[other]? = some scope) : number = other ↔ path = scope.path := by
  have known := (describes.number?_eq_some_iff scope.path other).mpr ⟨scope, found, rfl⟩
  constructor
  · rintro rfl
    rcases (describes.number?_eq_some_iff path number).mp numbered with ⟨same, sameFound, place⟩
    rw [found] at sameFound
    cases sameFound
    exact place.symm
  · rintro rfl
    rw [numbered] at known
    exact Option.some.inj known

/-- A name keeps its first entry in a scope, as it keeps its first definition. -/
theorem lookup_append (describes : table.Describes facts) {entered : ScopeTable}
    {entry : ScopeEntry} {owner : ModulePath} {space : Namespace} {name : String}
    {definition : Definition} {number other : Nat} {scope : Scope}
    (numbered : table.number? owner = some number)
    (found : table.scopes[other]? = some scope)
    (defines : more.Defines owner space name definition)
    (new : entered.entryFor? (owner ++ [name]) definition = some entry)
    (kept : ∀ path space name earlier, facts.definition? path space name = some earlier →
      entered.entryFor? (path ++ [name]) earlier = table.entryFor? (path ++ [name]) earlier)
    (otherSpace : Namespace) (written : String) :
    (scope.entries.lookup (otherSpace, written)).or
        (if number = other ∧ (otherSpace, written) = (space, name) then some entry else none) =
      ((facts ++ more).definition? scope.path otherSpace written).bind
        (entered.entryFor? (scope.path ++ [written])) := by
  rw [describes.entries other scope found, Declarations.definition?_append,
    defines scope.path otherSpace written]
  cases first : facts.definition? scope.path otherSpace written with
  | some earlier =>
    rcases Option.isSome_iff_exists.mp (describes.entryFor?_isSome first) with ⟨old, entered⟩
    rw [Option.some_or, Option.bind_some, Option.bind_some, kept _ _ _ _ first, entered,
      Option.some_or]
  | none =>
    have own_iff := describes.number_eq_iff numbered found
    rw [Option.bind_none, Option.none_or, Option.none_or]
    by_cases own : number = other ∧ (otherSpace, written) = (space, name)
    · rcases own with ⟨atOwner, same⟩
      cases same
      rw [if_pos ⟨atOwner, rfl⟩, if_pos ⟨own_iff.mp atOwner, rfl, rfl⟩, Option.bind_some,
        ← own_iff.mp atOwner, new]
    · rw [if_neg own, if_neg, Option.bind_none]
      rintro ⟨place, rfl, rfl⟩
      exact own ⟨own_iff.mpr place, rfl⟩

theorem define (describes : table.Describes facts) {module : ModulePath} {number : Nat}
    (numbered : table.number? module = some number) {space : Namespace} {name : String}
    {definition : Definition} (item : definition ≠ .module) :
    (table.define number (space, name) (.item definition)).Describes
      (facts ++ [.definition module space name definition]) where
  number?_eq_some_iff path other := by
    refine (describes.number?_eq_some_iff path other).trans ?_
    simp only [← Option.map_eq_some_iff, getElem?_define_path]
  known path := by
    rw [Declarations.hasModule_append, Declarations.hasModule_definition]
    refine (describes.known path).trans ?_
    cases path <;> simp [Declarations.hasModule]
  parent other scope found := by
    rcases exists_of_getElem?_define found with ⟨old, found, samePath, sameParent, _⟩
    rw [samePath, sameParent]
    exact describes.parent other old found
  entries other scope found otherSpace otherName := by
    rcases exists_of_getElem?_define found with ⟨old, found, samePath, _, lookup⟩
    rw [lookup, samePath]
    apply describes.lookup_append numbered found
      (Declarations.defines_definition module space name definition)
    · exact entryFor?_of_ne_module item _
    · intro path space name earlier _
      rw [entryFor?_define]
  housed := by
    apply describes.housed.append (Declarations.defines_definition module space name definition)
    · rw [← describes.known, numbered]
      rfl
    · intro isModule
      exact absurd isModule item

theorem number_lt (describes : table.Describes facts) {path : ModulePath} {number : Nat}
    (numbered : table.number? path = some number) : number < table.scopes.length := by
  rcases (describes.number?_eq_some_iff path number).mp numbered with ⟨scope, found, _⟩
  exact (List.getElem?_eq_some_iff.mp found).1

theorem definition?_eq_none (describes : table.Describes facts) {path : ModulePath}
    (unknown : table.number? path = none) (space : Namespace) (name : String) :
    facts.definition? path space name = none := by
  cases found : facts.definition? path space name with
  | none => rfl
  | some definition =>
    have known := describes.housed.owner path space name (by rw [found]; rfl)
    rw [← describes.known, unknown] at known
    cases known

theorem add (describes : table.Describes facts) {outer : ModulePath} {name : String} {parent : Nat}
    (numbered : table.number? outer = some parent) (new : table.number? (outer ++ [name]) = none) :
    (table.add parent (outer ++ [name]) name).Describes (facts ++ [.module outer name]) where
  number?_eq_some_iff path number := by
    simp only [number?_add, ← Option.map_eq_some_iff, getElem?_add_path]
    have old := describes.number?_eq_some_iff path number
    rw [← Option.map_eq_some_iff] at old
    by_cases same : path = outer ++ [name]
    · rw [if_pos same]
      by_cases last : number = table.scopes.length
      · simp [last, same]
      · rw [if_neg last, ← old, same, new]
        simp [Ne.symm last]
    · rw [if_neg same]
      by_cases last : number = table.scopes.length
      · rw [if_pos last]
        constructor
        · intro numbered
          exact absurd (describes.number_lt numbered) (by omega)
        · intro added
          exact absurd (Option.some.inj added).symm same
      · rw [if_neg last]
        exact old
  known path := by
    rw [number?_add, Declarations.hasModule_append, Declarations.hasModule_module,
      ← describes.known]
    by_cases same : path = outer ++ [name]
    · simp [same]
    · rw [if_neg same]
      cases path with
      | nil => simp [describes.known, Declarations.hasModule]
      | cons first rest => simp [Ne.symm same]
  parent number scope found := by
    rcases exists_of_getElem?_add found (describes.number_lt numbered) with
      ⟨rfl, rfl⟩ | ⟨old, found, samePath, sameParent, _⟩
    · simp [number?_add, numbered]
    · rw [samePath, sameParent, describes.parent number old found]
      rcases List.eq_nil_or_concat old.path with root | ⟨around, last, inner⟩
      · rw [root]
        rfl
      · rw [List.concat_eq_append] at inner
        have seen := (describes.number?_eq_some_iff old.path number).mpr ⟨old, found, rfl⟩
        have known : facts.hasModule (around ++ [last]) = true := by
          rw [← inner, ← describes.known, seen]
          rfl
        -- The new module is around no older one, since that was introduced after its own.
        have outside := describes.housed.outer known
        rw [inner, ModulePath.parent?_concat, Option.bind_some, Option.bind_some, number?_add,
          if_neg]
        rintro rfl
        rw [← describes.known, new] at outside
        cases outside
  entries number scope found space written := by
    rcases exists_of_getElem?_add found (describes.number_lt numbered) with
      ⟨rfl, rfl⟩ | ⟨old, found, samePath, _, lookup⟩
    · have undefined := describes.definition?_eq_none new space written
      rw [Declarations.definition?_append, undefined, Option.none_or,
        Declarations.defines_module outer name]
      simp
    · rw [lookup, samePath]
      apply describes.lookup_append numbered found (Declarations.defines_module outer name)
      · simp [entryFor?, number?_add]
      · intro path space written earlier first
        -- A module that the facts name has been introduced, so it is not the new one.
        apply entryFor?_add
        rintro rfl same
        have known := (describes.housed.module _ _ _ first).2
        rw [same, ← describes.known, new] at known
        cases known
  housed := by
    apply describes.housed.append (Declarations.defines_module outer name)
    · rw [← describes.known, numbered]
      rfl
    · intro _
      exact ⟨rfl, Declarations.hasModule_of_mem List.mem_cons_self⟩

end Describes

end ScopeTable

end Wireform.Names
