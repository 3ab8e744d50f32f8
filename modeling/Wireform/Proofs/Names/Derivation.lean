import Wireform.Names.Resolve

/-! # Derivations of names

What a name leads to is derived from the facts of a crate, one look-up from others, by the rules of
path resolution without their order. Whatever is found has a derivation, so names that only lead to
one another lead to nothing. -/

namespace Wireform.Names

open Wireform.Syntax

/-- What look-ups lead to. Only the first name of a path is looked up `lexically`. -/
abbrev LookupRelation := Lookup → (lexical : Bool) → Resolved → Prop

/-! ## One step of a derivation -/

namespace Resolved

/-- A name leads from what is in front of it to one of its members. -/
inductive HasMember (leads : LookupRelation) (space : Namespace) :
    Resolved → String → Resolved → Prop where
  | itself {path : ModulePath} {name : String} (isSelf : name = "self") :
      HasMember leads space (.module path) name (.module path)
  | around {path outer : ModulePath} {name : String} (isSuper : name = "super")
      (outside : path.parent? = some outer) :
      HasMember leads space (.module path) name (.module outer)
  | named {path : ModulePath} {name : String} {found : Resolved} (notSelf : name ≠ "self")
      (notSuper : name ≠ "super") (bound : leads ⟨path, name, space⟩ false found) :
      HasMember leads space (.module path) name found
  | external {external : ExternalCrate} {path : List String} {name : String}
      (exported : external.exportsPath (path ++ [name]) = true) :
      HasMember leads space (.external external path) name (.external external (path ++ [name]))

inductive HasMembers (leads : LookupRelation) (space : Namespace) :
    Resolved → List String → Resolved → Prop where
  | nil (parent : Resolved) : HasMembers leads space parent [] parent
  | cons {parent between found : Resolved} {name : String} {rest : List String}
      (first : HasMember leads (spaceBefore rest space) parent name between)
      (others : HasMembers leads space between rest found) :
      HasMembers leads space parent (name :: rest) found

end Resolved

inductive StartsAt (leads : LookupRelation) (module : ModulePath) (space : Namespace) :
    String → Resolved → Prop where
  | crate {name : String} (isCrate : name = "crate") :
      StartsAt leads module space name (.module [])
  | itself {name : String} (isSelf : name = "self") :
      StartsAt leads module space name (.module module)
  | around {name : String} {outer : ModulePath} (isSuper : name = "super")
      (outside : module.parent? = some outer) : StartsAt leads module space name (.module outer)
  | named {name : String} {found : Resolved} (free : name ∉ ["crate", "self", "super"])
      (bound : leads ⟨module, name, space⟩ true found) : StartsAt leads module space name found

namespace Compilation

variable (compilation : Compilation)

inductive Follows (leads : LookupRelation) (module : ModulePath) (space : Namespace) :
    Target → Resolved → Prop where
  | fromCrates {name : String} {rest : List String} {external : ExternalCrate} {found : Resolved}
      (known : compilation.crate? name = some external)
      (members : Resolved.HasMembers leads space (.external external []) rest found) :
      Follows leads module space ⟨true, name :: rest⟩ found
  | fromModule {name : String} {rest : List String} {first found : Resolved}
      (starts : StartsAt leads module (Resolved.spaceBefore rest space) name first)
      (members : Resolved.HasMembers leads space first rest found) :
      Follows leads module space ⟨false, name :: rest⟩ found

/-- What a look-up leads to by one fact of the crate, if other look-ups lead where `leads` says. -/
inductive Binds (leads : LookupRelation) : LookupRelation where
  | module {key : Lookup} {lexical : Bool}
      (declared : compilation.declarations.definition? key.module key.space key.name =
        some .module) :
      Binds leads key lexical (.module (key.module ++ [key.name]))
  | item {key : Lookup} {lexical : Bool} {definition : Definition}
      (declared : compilation.declarations.definition? key.module key.space key.name =
        some definition) (noModule : definition ≠ .module) :
      Binds leads key lexical (.item key.module key.name definition)
  | importing {key : Lookup} {lexical : Bool} {target : Target} {found : Resolved}
      (undefined : compilation.declarations.definition? key.module key.space key.name = none)
      (imported : target ∈ compilation.declarations.imports key.module key.name)
      (follows : compilation.Follows leads key.module key.space target found) :
      Binds leads key lexical found
  | glob {key : Lookup} {lexical : Bool} {target : Target} {source found : Resolved}
      (undefined : compilation.declarations.definition? key.module key.space key.name = none)
      (among : target ∈ compilation.declarations.globs key.module)
      (follows : compilation.Follows leads key.module .type target source)
      (member : Resolved.HasMember leads key.space source key.name found) :
      Binds leads key lexical found
  | crate {key : Lookup} {external : ExternalCrate} (type : key.space = .type)
      (known : compilation.crate? key.name = some external) :
      Binds leads key true (.external external [])
  | crateAlias {key : Lookup} {target : Target} {found : Resolved} (type : key.space = .type)
      (unknown : compilation.crate? key.name = none)
      (aliased : compilation.declarations.crateAlias? key.name = some target)
      (follows : compilation.Follows leads [] .type target found) :
      Binds leads key true found
  | builtin {key : Lookup} {id : String} (type : key.space = .type)
      (among : (key.name, id) ∈ builtinTypes) :
      Binds leads key true (.builtin id)

/-- What a look-up leads to by a derivation of this height: one step from look-ups that have lower
derivations. -/
def Derives : (height : Nat) → LookupRelation
  | 0 => fun _ _ _ => False
  | height + 1 => compilation.Binds (Derives height)

/-- What a path in a module leads to by a finite derivation. -/
def Leads (module : ModulePath) (path : Target) (space : Namespace) (found : Resolved) : Prop :=
  ∃ height, compilation.Follows (compilation.Derives height) module space path found

end Compilation

/-! ## More look-ups lead to more -/

section Monotone
variable {leads more : LookupRelation}
  (extended : ∀ key lexical found, leads key lexical found → more key lexical found)
include extended

theorem Resolved.HasMember.mono {space : Namespace} {parent found : Resolved} {name : String}
    (member : HasMember leads space parent name found) :
    HasMember more space parent name found := by
  cases member with
  | itself isSelf => exact .itself isSelf
  | around isSuper outside => exact .around isSuper outside
  | named notSelf notSuper bound => exact .named notSelf notSuper (extended _ _ _ bound)
  | external exported => exact .external exported

theorem Resolved.HasMembers.mono {space : Namespace} {parent found : Resolved} {names : List String}
    (members : HasMembers leads space parent names found) :
    HasMembers more space parent names found := by
  induction members with
  | nil parent => exact .nil parent
  | cons first _ induction => exact .cons (first.mono extended) induction

theorem StartsAt.mono {module : ModulePath} {space : Namespace} {name : String} {found : Resolved}
    (starts : StartsAt leads module space name found) : StartsAt more module space name found := by
  cases starts with
  | crate isCrate => exact .crate isCrate
  | itself isSelf => exact .itself isSelf
  | around isSuper outside => exact .around isSuper outside
  | named free bound => exact .named free (extended _ _ _ bound)

variable {compilation : Compilation}

theorem Compilation.Follows.mono {module : ModulePath} {space : Namespace} {path : Target}
    {found : Resolved} (follows : compilation.Follows leads module space path found) :
    compilation.Follows more module space path found := by
  cases follows with
  | fromCrates known members => exact .fromCrates known (members.mono extended)
  | fromModule starts members => exact .fromModule (starts.mono extended) (members.mono extended)

theorem Compilation.Binds.mono {key : Lookup} {lexical : Bool} {found : Resolved}
    (binds : compilation.Binds leads key lexical found) :
    compilation.Binds more key lexical found := by
  cases binds with
  | module declared => exact .module declared
  | item declared noModule => exact .item declared noModule
  | importing undefined imported follows =>
    exact .importing undefined imported (follows.mono extended)
  | glob undefined among follows member =>
    exact .glob undefined among (follows.mono extended) (member.mono extended)
  | crate type known => exact .crate type known
  | crateAlias type unknown aliased follows =>
    exact .crateAlias type unknown aliased (follows.mono extended)
  | builtin type among => exact .builtin type among

end Monotone

/-! ## What is found is derived -/

section Sound
variable {lookup : LookupFunction} {leads : LookupRelation}
  (sound : ∀ key lexical found, lookup key lexical = some found → leads key lexical found)
include sound

theorem Resolved.hasMember_of_member? {parent found : Resolved} {name : String} {space : Namespace}
    (member : member? lookup parent name space = some found) :
    HasMember leads space parent name found := by
  cases parent with
  | module path =>
    unfold member? at member
    dsimp only at member
    by_cases isSelf : name = "self"
    · rw [if_pos isSelf] at member
      cases member
      exact .itself isSelf
    · rw [if_neg isSelf] at member
      by_cases isSuper : name = "super"
      · rw [if_pos isSuper, Option.map_eq_some_iff] at member
        rcases member with ⟨outer, outside, rfl⟩
        exact .around isSuper outside
      · rw [if_neg isSuper] at member
        exact .named isSelf isSuper (sound _ _ _ member)
  | item owner name definition => cases member
  | external external path =>
    unfold member? at member
    dsimp only at member
    by_cases exported : external.exportsPath (path ++ [name]) = true
    · rw [if_pos exported] at member
      cases member
      exact .external exported
    · rw [if_neg exported] at member
      cases member
  | builtin id => cases member

theorem Resolved.hasMembers_of_members? {space : Namespace} {found : Resolved}
    (names : List String) :
    ∀ parent, members? lookup space parent names = some found →
      HasMembers leads space parent names found := by
  induction names with
  | nil =>
    intro parent members
    cases members
    exact .nil _
  | cons name names induction =>
    intro parent members
    rw [members?] at members
    rcases Option.bind_eq_some_iff.mp members with ⟨between, first, others⟩
    exact .cons (hasMember_of_member? sound first) (induction between others)

namespace Compilation

theorem startsAt_of_first? {module : ModulePath} {name : String} {space : Namespace}
    {found : Resolved} (first : first? lookup module name space = some found) :
    StartsAt leads module space name found := by
  unfold first? at first
  by_cases isCrate : name = "crate"
  · rw [if_pos isCrate] at first
    cases first
    exact .crate isCrate
  · rw [if_neg isCrate] at first
    by_cases isSelf : name = "self"
    · rw [if_pos isSelf] at first
      cases first
      exact .itself isSelf
    · rw [if_neg isSelf] at first
      by_cases isSuper : name = "super"
      · rw [if_pos isSuper, Option.map_eq_some_iff] at first
        rcases first with ⟨outer, outside, rfl⟩
        exact .around isSuper outside
      · rw [if_neg isSuper] at first
        have free : name ∉ ["crate", "self", "super"] := by
          simp only [List.mem_cons, List.not_mem_nil, or_false, not_or]
          exact ⟨isCrate, isSelf, isSuper⟩
        exact .named free (sound _ _ _ first)

variable {compilation : Compilation}

theorem follows_of_follow? {module : ModulePath} {path : Target} {space : Namespace}
    {found : Resolved} (follow : compilation.follow? lookup module path space = some found) :
    compilation.Follows leads module space path found := by
  rcases path with ⟨global, segments⟩
  cases segments with
  | nil => cases follow
  | cons name rest =>
    cases global with
    | true =>
      rcases Option.bind_eq_some_iff.mp follow with ⟨first, starts, members⟩
      rcases Option.map_eq_some_iff.mp starts with ⟨external, known, rfl⟩
      exact .fromCrates known (Resolved.hasMembers_of_members? sound rest _ members)
    | false =>
      rcases Option.bind_eq_some_iff.mp follow with ⟨first, starts, members⟩
      exact .fromModule (startsAt_of_first? sound starts)
        (Resolved.hasMembers_of_members? sound rest first members)

theorem binds_of_lookupInModule? {key : Lookup} {lexical : Bool} {found : Resolved}
    (looked : compilation.lookupInModule? lookup key = some found) :
    compilation.Binds leads key lexical found := by
  unfold lookupInModule? at looked
  dsimp only at looked
  cases declared : compilation.declarations.definition? key.module key.space key.name with
  | some definition =>
    rw [declared] at looked
    cases definition with
    | module =>
      cases looked
      exact .module declared
    | item kind =>
      cases looked
      exact .item declared nofun
    | typeAlias ty parameters =>
      cases looked
      exact .item declared nofun
    | constant ty value =>
      cases looked
      exact .item declared nofun
  | none =>
    rw [declared] at looked
    rcases Option.or_eq_some_iff.mp looked with imported | ⟨_, globbed⟩
    · rcases List.exists_of_findSome?_eq_some imported with ⟨target, among, follow⟩
      exact .importing declared among (follows_of_follow? sound follow)
    · rcases List.exists_of_findSome?_eq_some globbed with ⟨target, among, member⟩
      rcases Option.bind_eq_some_iff.mp member with ⟨source, follow, last⟩
      exact .glob declared among (follows_of_follow? sound follow)
        (Resolved.hasMember_of_member? sound last)

theorem binds_of_lookupEverywhere? {key : Lookup} {found : Resolved} (type : key.space = .type)
    (looked : compilation.lookupEverywhere? lookup key.name = some found) :
    compilation.Binds leads key true found := by
  unfold lookupEverywhere? at looked
  cases known : compilation.crate? key.name with
  | some external =>
    rw [known] at looked
    cases looked
    exact .crate type known
  | none =>
    rw [known] at looked
    dsimp only at looked
    cases aliased : compilation.declarations.crateAlias? key.name with
    | some target =>
      rw [aliased] at looked
      exact .crateAlias type known aliased (follows_of_follow? sound looked)
    | none =>
      rw [aliased, Option.map_eq_some_iff] at looked
      rcases looked with ⟨id, among, rfl⟩
      rcases List.lookup_eq_some_iff.mp among with ⟨before, after, listed, _⟩
      exact .builtin type (listed ▸ List.mem_append_right before List.mem_cons_self)

end Compilation
end Sound

namespace Compilation

variable {compilation : Compilation}

/-- The look-ups in progress only ever cut a search short, so they do not matter here. -/
theorem derives_of_lookup? (depth : Nat) : ∀ visiting key lexical found,
    compilation.lookup? depth visiting key lexical = some found →
      compilation.Derives depth key lexical found := by
  induction depth with
  | zero =>
    intro visiting key lexical found looked
    cases looked
  | succ depth induction =>
    intro visiting key lexical found looked
    unfold lookup? at looked
    by_cases inProgress : visiting.contains key = true
    · rw [if_pos inProgress] at looked
      cases looked
    · rw [if_neg inProgress] at looked
      dsimp only at looked
      have sound := induction (key :: visiting)
      rcases Option.or_eq_some_iff.mp looked with inModule | ⟨_, everywhere⟩
      · exact binds_of_lookupInModule? sound inModule
      · by_cases outermost : (lexical && decide (key.space = .type)) = true
        · rw [if_pos outermost] at everywhere
          rcases Bool.and_eq_true_iff.mp outermost with ⟨rfl, type⟩
          exact binds_of_lookupEverywhere? sound (of_decide_eq_true type) everywhere
        · rw [if_neg outermost] at everywhere
          cases everywhere

theorem leads_of_resolve? {module : ModulePath} {path : Target} {space : Namespace}
    {found : Resolved} (resolved : compilation.resolve? module path space = some found) :
    compilation.Leads module path space found :=
  ⟨maxDepth, follows_of_follow? (derives_of_lookup? maxDepth []) resolved⟩

/-! ## Names that only lead to one another -/

/-- None of these look-ups leads anywhere but through one of them, as in a cycle of imports. -/
def Unfounded (compilation : Compilation) (keys : Lookup → Prop) : Prop :=
  ∀ key, keys key → ∀ lexical found,
    ¬compilation.Binds (fun other lexical found =>
      ¬keys other ∧ ∃ height, compilation.Derives height other lexical found) key lexical found

/-- Names are unfounded that stand for nothing but imports of one another, by themselves or by paths
that start with one of them. -/
theorem unfounded_of_imports {keys : Lookup → Prop}
    (undefined : ∀ key, keys key →
      compilation.declarations.definition? key.module key.space key.name = none)
    (imported : ∀ key, keys key →
      ∀ target ∈ compilation.declarations.imports key.module key.name,
        ∃ name rest, target = ⟨false, name :: rest⟩ ∧ name ∉ ["crate", "self", "super"] ∧
          keys ⟨key.module, name, Resolved.spaceBefore rest key.space⟩)
    (alone : ∀ key, keys key → compilation.declarations.globs key.module = [])
    (unknown : ∀ key, keys key → compilation.crate? key.name = none ∧
      compilation.declarations.crateAlias? key.name = none ∧ ∀ id, (key.name, id) ∉ builtinTypes) :
    compilation.Unfounded keys := by
  intro key among lexical found binds
  have nowhere := undefined key among
  rcases unknown key among with ⟨noCrate, noAlias, noBuiltin⟩
  cases binds with
  | module declared => exact absurd (nowhere.symm.trans declared) nofun
  | item declared noModule => exact absurd (nowhere.symm.trans declared) nofun
  | importing _ imports follows =>
    rcases imported key among _ imports with ⟨name, rest, rfl, free, cyclic⟩
    cases follows with
    | fromModule starts members =>
      cases starts with
      | crate isCrate => exact free (by simp [isCrate])
      | itself isSelf => exact free (by simp [isSelf])
      | around isSuper outside => exact free (by simp [isSuper])
      | named _ bound => exact bound.1 cyclic
  | glob _ globbed follows member =>
    rw [alone key among] at globbed
    cases globbed
  | crate type known => exact absurd (noCrate.symm.trans known) nofun
  | crateAlias type _ aliased follows => exact absurd (noAlias.symm.trans aliased) nofun
  | builtin type listed => exact noBuiltin _ listed

theorem Unfounded.not_derives {keys : Lookup → Prop} (unfounded : compilation.Unfounded keys)
    (height : Nat) : ∀ key, keys key → ∀ lexical found,
      ¬compilation.Derives height key lexical found := by
  induction height with
  | zero =>
    intro key among lexical found derives
    exact derives
  | succ height induction =>
    intro key among lexical found derives
    apply unfounded key among lexical found
    refine Binds.mono ?_ derives
    intro other lexical found lower
    exact ⟨fun cyclic => induction other cyclic lexical found lower, height, lower⟩

theorem Unfounded.lookup?_eq_none {keys : Lookup → Prop} (unfounded : compilation.Unfounded keys)
    {key : Lookup} (among : keys key) (depth : Nat) (visiting : List Lookup) (lexical : Bool) :
    compilation.lookup? depth visiting key lexical = none := by
  cases looked : compilation.lookup? depth visiting key lexical with
  | none => rfl
  | some found =>
    exact absurd (derives_of_lookup? depth visiting key lexical found looked)
      (unfounded.not_derives depth key among lexical found)

theorem Unfounded.resolve?_eq_none {keys : Lookup → Prop} (unfounded : compilation.Unfounded keys)
    {key : Lookup} (among : keys key) (free : key.name ∉ ["crate", "self", "super"]) :
    compilation.resolve? key.module ⟨false, [key.name]⟩ key.space = none := by
  simp only [List.mem_cons, List.not_mem_nil, or_false, not_or] at free
  have nowhere := unfounded.lookup?_eq_none among maxDepth [] true
  simp only [resolve?, follow?, first?, free, Bool.false_eq_true, if_false, Resolved.spaceBefore,
    List.isEmpty_nil, if_true, nowhere, bind, Option.bind_none]

theorem Unfounded.resolve?_member_eq_none {keys : Lookup → Prop}
    (unfounded : compilation.Unfounded keys) {key : Lookup} (among : keys key)
    (free : key.name ∉ ["crate", "self", "super"]) {module : ModulePath} {path : Target}
    (inside : compilation.resolve? module path .type = some (.module key.module)) :
    compilation.resolve? module (path.member key.name) key.space = none := by
  simp only [List.mem_cons, List.not_mem_nil, or_false, not_or] at free
  have nowhere := unfounded.lookup?_eq_none among maxDepth [] false
  rw [compilation.resolve?_member inside]
  simp only [Resolved.member?, free, if_false, nowhere]

end Compilation

/-! ## Items -/

section Items
variable {compilation : Compilation}

theorem Resolved.HasMembers.eq_or_member {leads : LookupRelation} {space : Namespace}
    {parent found : Resolved} {names : List String}
    (members : HasMembers leads space parent names found) :
    names = [] ∧ found = parent ∨ ∃ between name, HasMember leads space between name found := by
  induction members with
  | nil parent => exact .inl ⟨rfl, rfl⟩
  | @cons parent between found name rest first others induction =>
    rcases induction with ⟨rfl, rfl⟩ | last
    · exact .inr ⟨parent, name, first⟩
    · exact .inr last

variable {leads : LookupRelation} {owner : ModulePath} {name : String} {definition : Definition}
  (defined : ∀ key lexical, leads key lexical (.item owner name definition) →
    compilation.declarations.definition? owner key.space name = some definition)
include defined

theorem Resolved.HasMember.definition? {space : Namespace} {parent : Resolved} {last : String}
    (member : HasMember leads space parent last (.item owner name definition)) :
    compilation.declarations.definition? owner space name = some definition := by
  cases member with
  | named notSelf notSuper bound => exact defined _ _ bound

theorem Compilation.Follows.definition? {module : ModulePath} {space : Namespace} {path : Target}
    (follows : compilation.Follows leads module space path (.item owner name definition)) :
    compilation.declarations.definition? owner space name = some definition := by
  cases follows with
  | fromCrates known members =>
    rcases members.eq_or_member with ⟨_, same⟩ | ⟨between, last, member⟩
    · cases same
    · exact member.definition? defined
  | fromModule starts members =>
    rcases members.eq_or_member with ⟨rfl, rfl⟩ | ⟨between, last, member⟩
    · cases starts with
      | named free bound => exact defined _ _ bound
    · exact member.definition? defined

end Items

namespace Compilation

variable {compilation : Compilation} {owner : ModulePath} {name : String} {definition : Definition}

theorem definition?_of_derives (height : Nat) : ∀ key lexical,
    compilation.Derives height key lexical (.item owner name definition) →
      compilation.declarations.definition? owner key.space name = some definition := by
  induction height with
  | zero =>
    intro key lexical derives
    cases derives
  | succ height induction =>
    intro key lexical derives
    cases derives with
    | item declared noModule => exact declared
    | importing undefined imported follows => exact follows.definition? induction
    | glob undefined among follows member => exact member.definition? induction
    | crateAlias type unknown aliased follows =>
      rw [type]
      exact follows.definition? induction

/-- An item that a path leads to is what its name is first declared as in its module. -/
theorem definition?_of_leads {module : ModulePath} {path : Target} {space : Namespace}
    (leads : compilation.Leads module path space (.item owner name definition)) :
    compilation.declarations.definition? owner space name = some definition := by
  rcases leads with ⟨height, follows⟩
  exact follows.definition? (definition?_of_derives height)

end Compilation

end Wireform.Names
