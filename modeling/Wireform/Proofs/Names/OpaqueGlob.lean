import Wireform.Proofs.Names.Sight

/-! # Globs of opaque crates

A crate of which nothing is known has every member. So a glob of it answers for every name that a
module does not declare, import or glob before it, and hides what the name would have led to: a name
of another glob, a crate, an alias of one or a built-in type. Nothing else changes. -/

namespace Wireform.Names

open Wireform.Syntax

/-! ## Facts that the glob leaves alone -/

namespace AddedGlob

variable (added : AddedGlob) (declarations : Declarations)

/-- A choice of facts that passes over globs is the same with the glob and without it. -/
theorem findSome?_insert {α : Type} {choose : Declaration → Option α}
    (passes : choose (.glob added.module added.target) = none) :
    (added.insert declarations).findSome? choose = declarations.findSome? choose := by
  rw [insert, List.findSome?_append, List.findSome?_cons, passes, ← List.findSome?_append,
    List.take_append_drop]

theorem filterMap_insert {α : Type} {choose : Declaration → Option α}
    (passes : choose (.glob added.module added.target) = none) :
    (added.insert declarations).filterMap choose = declarations.filterMap choose := by
  rw [insert, List.filterMap_append, List.filterMap_cons_none passes, ← List.filterMap_append,
    List.take_append_drop]

@[simp] theorem definition?_insert (path : ModulePath) (space : Namespace) (name : String) :
    (added.insert declarations).definition? path space name =
      declarations.definition? path space name :=
  added.findSome?_insert declarations rfl

@[simp] theorem imports_insert (path : ModulePath) (name : String) :
    (added.insert declarations).imports path name = declarations.imports path name :=
  added.filterMap_insert declarations rfl

@[simp] theorem crateAlias?_insert (name : String) :
    (added.insert declarations).crateAlias? name = declarations.crateAlias? name := by
  rw [Declarations.crateAlias?, added.filterMap_insert declarations rfl]
  rfl

theorem globs_insert (path : ModulePath) :
    (added.insert declarations).globs path =
      Declarations.globs (declarations.take added.position) path ++
        ((if added.module = path then [added.target] else []) ++
          Declarations.globs (declarations.drop added.position) path) := by
  simp only [Declarations.globs, insert, List.filterMap_append, List.filterMap_cons]
  split <;> rename_i chosen <;> split at chosen <;> simp_all

theorem globs_split (path : ModulePath) :
    declarations.globs path =
      Declarations.globs (declarations.take added.position) path ++
        Declarations.globs (declarations.drop added.position) path := by
  simp only [Declarations.globs, ← List.filterMap_append, List.take_append_drop]

end AddedGlob

/-! ## Members of opaque crates -/

namespace Resolved

variable {external : ExternalCrate} (closed : external.exports = none)
include closed

theorem member?_opaque (lookup : LookupFunction) (path : List String) (name : String)
    (space : Namespace) :
    member? lookup (.external external path) name space =
      some (.external external (path ++ [name])) := by
  simp only [member?, ExternalCrate.exportsPath, closed, if_true]

theorem members?_opaque (lookup : LookupFunction) (space : Namespace) (names : List String) :
    ∀ path, members? lookup space (.external external path) names =
      some (.external external (path ++ names)) := by
  induction names with
  | nil =>
    intro path
    rw [List.append_nil]
    rfl
  | cons name names induction =>
    intro path
    rw [members?, member?_opaque closed]
    simp only [bind, Option.bind_some]
    rw [induction, List.append_assoc]
    rfl

theorem membersSight_opaque (look : SightFunction) (space : Namespace) (names : List String) :
    ∀ path, membersSight look space (.external external path) names =
      .clear (.external external (path ++ names)) := by
  induction names with
  | nil =>
    intro path
    rw [List.append_nil]
    rfl
  | cons name names induction =>
    intro path
    simp only [membersSight, memberSight, ExternalCrate.exportsPath, closed, if_true, Sight.bind,
      induction, List.append_assoc, List.singleton_append]

end Resolved

/-! ## Resolution with the glob and without it -/

/-- A look-up past the glob, without it and with it. -/
def LookupMatches (crates : List ExternalCrate) (look : SightFunction)
    (lookup lookupWithGlob : LookupFunction) : Prop :=
  ∀ key lexical, (look key lexical).Matches crates (lookup key lexical) (lookupWithGlob key lexical)

namespace LookupMatches

open Resolved

variable {crates : List ExternalCrate} {look : SightFunction}
  {lookup lookupWithGlob : LookupFunction} (inner : LookupMatches crates look lookup lookupWithGlob)
include inner

theorem member (parent : Resolved) (name : String) (space : Namespace) :
    (parent.memberSight look name space).Matches crates (parent.member? lookup name space)
      (parent.member? lookupWithGlob name space) := by
  cases parent with
  | module path =>
    unfold memberSight member?
    dsimp only
    split
    · exact .clear _
    · split
      · exact .ofOption _
      · exact inner _ _
  | item owner name definition => exact .nothing
  | external external path =>
    unfold memberSight member?
    dsimp only
    split
    · exact .clear _
    · exact .nothing
  | builtin id => exact .nothing

theorem members (space : Namespace) (names : List String) :
    ∀ parent, (membersSight look space parent names).Matches crates
      (members? lookup space parent names) (members? lookupWithGlob space parent names) := by
  induction names with
  | nil => exact fun parent => .clear parent
  | cons name names induction =>
    intro parent
    exact (inner.member parent name _).bind induction fun external path closed =>
      ⟨_, members?_opaque closed lookupWithGlob space names path⟩

end LookupMatches

namespace AddedGlob

variable (added : AddedGlob) {compilation : Compilation} {look : SightFunction}
  {lookup lookupWithGlob : LookupFunction}
  (inner : LookupMatches compilation.crates look lookup lookupWithGlob)
include inner

theorem first_matches (module : ModulePath) (name : String) (space : Namespace) :
    (firstSight look module name space).Matches compilation.crates
      (Compilation.first? lookup module name space)
      (Compilation.first? lookupWithGlob module name space) := by
  unfold firstSight Compilation.first?
  split
  · exact .clear _
  · split
    · exact .clear _
    · split
      · exact .ofOption _
      · exact inner _ _

theorem follow_matches (module : ModulePath) (path : Target) (space : Namespace) :
    (followSight compilation look module path space).Matches compilation.crates
      (compilation.follow? lookup module path space)
      ((compilation.withGlob added).follow? lookupWithGlob module path space) := by
  simp only [followSight, Compilation.follow?]
  cases path.segments with
  | nil => exact .nothing
  | cons name rest =>
    have stays (external : ExternalCrate) (path : List String) (closed : external.exports = none) :
        ∃ longer, Resolved.members? lookupWithGlob space (.external external path) rest =
          some (.external external longer) :=
      ⟨_, Resolved.members?_opaque closed lookupWithGlob space rest path⟩
    cases path.global with
    | true => exact (Sight.Matches.ofOption _).bind (inner.members space rest) stays
    | false =>
      exact (first_matches inner module name _).bind (inner.members space rest) stays

theorem glob_matches (key : Lookup) (target : Target) :
    (globSight compilation look key target).Matches compilation.crates
      ((compilation.follow? lookup key.module target .type).bind fun source =>
        source.member? lookup key.name key.space)
      (((compilation.withGlob added).follow? lookupWithGlob key.module target .type).bind
        fun source => source.member? lookupWithGlob key.name key.space) :=
  (added.follow_matches inner key.module target .type).bind
    (fun source => inner.member source key.name key.space)
    fun _ path closed =>
      ⟨_, Resolved.member?_opaque closed lookupWithGlob path key.name key.space⟩

theorem own_matches (leads : added.LeadsOpaqueBy compilation lookup) (key : Lookup) :
    (added.ownSight compilation look key).Matches compilation.crates none
      ((if added.module = key.module then [added.target] else []).findSome? fun target =>
        ((compilation.withGlob added).follow? lookupWithGlob key.module target .type).bind
          fun source => source.member? lookupWithGlob key.name key.space) := by
  unfold ownSight
  by_cases own : key.module = added.module
  · have followed := added.follow_matches inner added.module added.target .type
    simp only [own, if_true, List.findSome?_cons, List.findSome?_nil]
    unfold LeadsOpaqueBy at leads
    revert followed leads
    generalize followSight compilation look added.module added.target .type = sight
    generalize compilation.follow? lookup added.module added.target .type = without
    generalize (compilation.withGlob added).follow? lookupWithGlob added.module added.target
      .type = withGlob
    intro leads followed
    cases followed with
    | nothing => exact .nothing
    | clear found =>
      rcases leads found rfl with ⟨external, known, closed, path, rfl⟩
      rw [Option.bind_some, Resolved.member?_opaque closed]
      exact .hidden _ known closed
    | hidden path known closed =>
      rw [Option.bind_some, Resolved.member?_opaque closed]
      exact .hidden _ known closed
  · simp only [own, Ne.symm own, if_false, List.findSome?_nil]
    exact .nothing

theorem inModule_matches (leads : added.LeadsOpaqueBy compilation lookup) (key : Lookup) :
    (added.sightInModule compilation look key).Matches compilation.crates
      (compilation.lookupInModule? lookup key)
      ((compilation.withGlob added).lookupInModule? lookupWithGlob key) := by
  simp only [sightInModule, Compilation.lookupInModule?]
  rw [show (compilation.withGlob added).declarations = added.insert compilation.declarations from
    rfl, definition?_insert, imports_insert, globs_insert,
    added.globs_split compilation.declarations key.module]
  simp only [List.findSome?_append]
  cases compilation.declarations.definition? key.module key.space key.name with
  | some definition => cases definition <;> exact .clear _
  | none =>
    have globs (part : Declarations) :=
      Sight.Matches.firstOf (added.glob_matches inner key) (part.globs key.module)
    have own := (added.own_matches inner leads key).orElse
      (globs (compilation.declarations.drop added.position))
    rw [Option.none_or] at own
    exact (Sight.Matches.firstOf (fun target => added.follow_matches inner key.module target key.space)
      _).orElse ((globs (compilation.declarations.take added.position)).orElse own)

theorem everywhere_matches (name : String) :
    (sightEverywhere compilation look name).Matches compilation.crates
      (compilation.lookupEverywhere? lookup name)
      ((compilation.withGlob added).lookupEverywhere? lookupWithGlob name) := by
  simp only [sightEverywhere, Compilation.lookupEverywhere?]
  rw [show (compilation.withGlob added).declarations = added.insert compilation.declarations from
    rfl, crateAlias?_insert,
    show (compilation.withGlob added).crate? name = compilation.crate? name from rfl]
  cases compilation.crate? name with
  | some external => exact .clear _
  | none =>
    cases compilation.declarations.crateAlias? name with
    | some target => exact added.follow_matches inner [] target .type
    | none => exact .ofOption _

end AddedGlob

/-- Every look-up is what is seen past the glob, by induction on how many more there may be. -/
theorem lookup_matches {added : AddedGlob} {compilation : Compilation}
    (leads : added.LeadsOpaque compilation) (depth : Nat) :
    ∀ visiting, LookupMatches compilation.crates (added.look compilation depth visiting)
      (compilation.lookup? depth visiting) ((compilation.withGlob added).lookup? depth visiting) := by
  induction depth with
  | zero => exact fun _ _ _ => .nothing
  | succ depth induction =>
    intro visiting key lexical
    unfold AddedGlob.look Compilation.lookup?
    split
    · exact .nothing
    · have inner := induction (key :: visiting)
      refine (added.inModule_matches inner (leads depth (key :: visiting)) key).orElse ?_
      split
      · exact added.everywhere_matches inner key.name
      · exact .nothing

/-- What is seen of a path past the glob is what the path leads to without it and with it. -/
theorem resolve_matches {added : AddedGlob} {compilation : Compilation}
    (leads : added.LeadsOpaque compilation) (module : ModulePath) (path : Target)
    (space : Namespace) :
    (added.sight compilation module path space).Matches compilation.crates
      (compilation.resolve? module path space)
      ((compilation.withGlob added).resolve? module path space) :=
  added.follow_matches (lookup_matches leads maxDepth []) module path space

/-! ## Where the target lies in an opaque crate -/

namespace AddedGlob

variable {added : AddedGlob} {compilation : Compilation} {name : String} {rest : List String}
  {external : ExternalCrate}

/-- A target that starts at the crates can be taken for nothing else. -/
theorem leadsOpaque_of_global (target : added.target = ⟨true, name :: rest⟩)
    (known : compilation.crate? name = some external) (closed : external.exports = none) :
    added.LeadsOpaque compilation := by
  intro depth visiting found follows
  simp only [Compilation.follow?, target, known, if_true, Option.map_some, bind, Option.bind_some,
    Resolved.members?_opaque closed, Option.some.injEq] at follows
  exact ⟨external, List.mem_of_find?_eq_some known, closed, _, follows.symm⟩

/-- Nor can one whose first name the module neither declares nor imports, nor sees through another
glob. -/
theorem leadsOpaque_of_unbound (target : added.target = ⟨false, name :: rest⟩)
    (free : name ∉ ["crate", "self", "super"])
    (undefined : compilation.declarations.definition? added.module .type name = none)
    (unimported : compilation.declarations.imports added.module name = [])
    (unseen : ∀ depth visiting, ∀ other ∈ compilation.declarations.globs added.module,
      ((compilation.follow? (compilation.lookup? depth visiting) added.module other .type).bind
        fun source => source.member? (compilation.lookup? depth visiting) name .type) = none)
    (known : compilation.crate? name = some external) (closed : external.exports = none) :
    added.LeadsOpaque compilation := by
  intro depth visiting found follows
  simp only [List.mem_cons, List.not_mem_nil, or_false, not_or] at free
  have space : Resolved.spaceBefore rest .type = .type := by
    unfold Resolved.spaceBefore
    split <;> rfl
  simp only [Compilation.follow?, target, Compilation.first?, free, if_false, space,
    Bool.false_eq_true] at follows
  cases depth with
  | zero => simp [Compilation.lookup?] at follows
  | succ depth =>
    unfold Compilation.lookup? at follows
    split at follows
    · simp at follows
    · have globs := List.findSome?_eq_none_iff.mpr
        (unseen depth (⟨added.module, name, .type⟩ :: visiting))
      simp only [Compilation.lookupInModule?, undefined, unimported, bind, globs, List.findSome?_nil,
        Option.or_none, Option.none_or, Bool.true_and, decide_true, if_true,
        Compilation.lookupEverywhere?, known, Option.bind_some,
        Resolved.members?_opaque closed, Option.some.injEq] at follows
      exact ⟨external, List.mem_of_find?_eq_some known, closed, _, follows.symm⟩

/-- A glob in front of all others hides every path whose first name its module neither declares nor
imports, also where that name is a crate's. -/
theorem hides_of_unbound {target : List String} {first : String} {path : List String}
    {space : Namespace} (global : added.target = ⟨true, name :: target⟩)
    (known : compilation.crate? name = some external) (closed : external.exports = none)
    (free : first ∉ ["crate", "self", "super"])
    (undefined : compilation.declarations.definition? added.module
      (Resolved.spaceBefore path space) first = none)
    (unimported : compilation.declarations.imports added.module first = [])
    (foremost : Declarations.globs (compilation.declarations.take added.position) added.module =
      []) :
    added.hides compilation added.module ⟨false, first :: path⟩ space = true := by
  simp only [List.mem_cons, List.not_mem_nil, or_false, not_or] at free
  have leads (look : SightFunction) : followSight compilation look added.module added.target .type =
      .clear (.external external target) := by
    simp only [followSight, global, known, if_true, Option.map_some, Sight.ofOption, Sight.bind,
      Resolved.membersSight_opaque closed, List.nil_append]
  have own (look : SightFunction) :
      (added.sightInModule compilation look
        ⟨added.module, first, Resolved.spaceBefore path space⟩) = .hidden := by
    simp only [sightInModule, undefined, unimported, foremost, Sight.firstOf, Sight.orElse, ownSight,
      if_true, leads, Sight.bind]
  have looked (depth : Nat) : added.look compilation (depth + 1) []
      ⟨added.module, first, Resolved.spaceBefore path space⟩ true = .hidden := by
    simp only [look, List.contains_nil, own, Sight.orElse, Bool.false_eq_true, if_false]
  have depth : maxDepth = 31 + 1 := rfl
  simp only [hides, sight, depth, followSight, firstSight, free, if_false, Bool.false_eq_true,
    looked, Sight.bind, Sight.isHidden]

end AddedGlob

/-! ## Globs in sources -/

/-- The tree of a use declaration that globs what these names lead to. -/
def globTree (names : List Name) : UseTree := names.foldr .segment .everything

theorem ofUse_globTree (module : ModulePath) (global : Bool) (names : List Name) :
    ∀ before, Declaration.ofUse module global before (globTree names) =
      [.glob module ⟨global, before ++ names.map Name.text⟩] := by
  induction names with
  | nil =>
    intro before
    rw [List.map_nil, List.append_nil]
    rfl
  | cons name names induction =>
    intro before
    have rest := induction (before ++ [name.text])
    rwa [List.append_assoc] at rest

/-- The second items are the first ones of module `around` with a use declaration added to
`module`, which is that module or stands somewhere inside it. -/
inductive AddsUse (global : Bool) (tree : UseTree) (module : ModulePath) :
    (around : ModulePath) → List Item → List Item → Prop where
  | here (before after : List Item) :
      AddsUse global tree module module (before ++ after) (before ++ .use global tree :: after)
  | inside {around : ModulePath} {items added : List Item} (attributes : List Attribute)
      (visibility : Visibility) (name : Name) (before after : List Item)
      (adds : AddsUse global tree module (around ++ [name.text]) items added) :
      AddsUse global tree module around
        (before ++ .module attributes visibility name (some items) :: after)
        (before ++ .module attributes visibility name (some added) :: after)

namespace Declaration

theorem ofItems_append (file : String) (module : ModulePath) (before after : List Item) :
    ofItems file module (before ++ after) =
      ofItems file module before ++ ofItems file module after := by
  induction before with
  | nil => rfl
  | cons head tail induction =>
    simp only [List.cons_append, ofItems, induction, List.append_assoc]

theorem ofItems_addsUse {global : Bool} {names : List Name} {module around : ModulePath}
    {items added : List Item} (file : String)
    (adds : AddsUse global (globTree names) module around items added) :
    ∃ front back, ofItems file around items = front ++ back ∧
      ofItems file around added =
        front ++ .glob module ⟨global, names.map Name.text⟩ :: back := by
  induction adds with
  | here before after =>
    refine ⟨ofItems file module before, ofItems file module after, ofItems_append .., ?_⟩
    rw [ofItems_append, ofItems, ofItem, ofUse_globTree]
    rfl
  | @inside around items added attributes visibility name before after adds induction =>
    rcases induction with ⟨front, back, without, withGlob⟩
    refine ⟨ofItems file around before ++ .module around name.text ::
      .visibility (around ++ [name.text]) visibility :: front,
      back ++ ofItems file around after, ?_, ?_⟩
    · simp only [ofItems_append, ofItems, ofItem, without, List.append_assoc, List.cons_append]
    · simp only [ofItems_append, ofItems, ofItem, withGlob, List.append_assoc, List.cons_append]

end Declaration

theorem AddedGlob.insert_append (module : ModulePath) (target : Target)
    (front back : Declarations) :
    insert ⟨module, target, front.length⟩ (front ++ back) =
      front ++ .glob module target :: back := by
  simp only [insert, List.take_left', List.drop_left']

/-- To write a use declaration that globs anywhere in a source is to add its glob. -/
theorem Compilation.withGlob_of_addsUse {global : Bool} {names : List Name} {module : ModulePath}
    {unit other : SourceUnit} (samePath : other.path = unit.path)
    (sameModule : other.module = unit.module)
    (adds : AddsUse global (globTree names) module unit.module unit.items other.items)
    (front back : List SourceUnit) (crates : List ExternalCrate) :
    ∃ position,
      (ofUnits (front ++ other :: back) crates).declarations =
        ((ofUnits (front ++ unit :: back) crates).withGlob
          ⟨module, ⟨global, names.map Name.text⟩, position⟩).declarations := by
  rcases Declaration.ofItems_addsUse unit.path adds with ⟨before, after, without, withGlob⟩
  refine ⟨(front.flatMap declarationsOf ++ (Declaration.ofPath unit.module ++ before)).length, ?_⟩
  have joined : (ofUnits (front ++ unit :: back) crates).declarations =
      (front.flatMap declarationsOf ++ (Declaration.ofPath unit.module ++ before)) ++
        (after ++ back.flatMap declarationsOf) := by
    simp only [ofUnits, List.flatMap_append, List.flatMap_cons, declarationsOf, without,
      List.append_assoc]
  rw [Compilation.withGlob, joined, AddedGlob.insert_append]
  simp only [ofUnits, List.flatMap_append, List.flatMap_cons, declarationsOf, samePath, sameModule,
    withGlob, List.append_assoc, List.cons_append]

end Wireform.Names
