import Wireform.Names.Resolve

/-! # Re-exports

A module that imports a name shows it to others as one of its own. From outside, the imported path
is followed while the look-up of the name is in progress, so it cannot go through the name again: it
leads where it would lead if the name led nowhere. -/

namespace Wireform.Names

open Wireform.Syntax

/-- What one look-up leads to where it is needed, by the depth, the look-ups in progress, and
whether the name is the first one of a path. -/
abbrev Answer := (depth : Nat) → (visiting : List Lookup) → (lexical : Bool) → Option Resolved

namespace Answer

/-- The answer of a name that leads nowhere. -/
def nowhere : Answer := fun _ _ _ => none

/-- What the look-up itself leads to. -/
def own (compilation : Compilation) (key : Lookup) : Answer := fun depth visiting lexical =>
  compilation.lookup? depth visiting key lexical

end Answer

namespace Compilation

variable (compilation : Compilation)

/-- Looks a name up where one look-up, the `known` one, is answered beforehand. -/
def lookupKnowing? (known : Lookup) (answer : Answer) :
    (depth : Nat) → (visiting : List Lookup) → LookupFunction
  | 0, _, _, _ => none
  | depth + 1, visiting, key, lexical =>
    if key = known then answer (depth + 1) visiting lexical
    else if visiting.contains key then none
    else
      let inner := lookupKnowing? known answer depth (key :: visiting)
      (compilation.lookupInModule? inner key).or
        (if lexical && key.space = .type then compilation.lookupEverywhere? inner key.name
          else none)

variable {compilation} {known : Lookup}

theorem lookupKnowing?_own (known : Lookup) (depth : Nat) : ∀ visiting,
    compilation.lookupKnowing? known (.own compilation known) depth visiting =
      compilation.lookup? depth visiting := by
  induction depth with
  | zero =>
    intro visiting
    rfl
  | succ depth induction =>
    intro visiting
    funext key lexical
    rw [lookupKnowing?]
    by_cases same : key = known
    · rw [if_pos same, same, Answer.own]
    · rw [if_neg same, induction (key :: visiting), lookup?]

theorem lookup?_concat (depth : Nat) : ∀ visiting,
    compilation.lookup? depth (visiting ++ [known]) =
      compilation.lookupKnowing? known .nowhere depth visiting := by
  induction depth with
  | zero =>
    intro visiting
    rfl
  | succ depth induction =>
    intro visiting
    funext key lexical
    rw [lookupKnowing?, lookup?]
    by_cases same : key = known
    · have inProgress : (visiting ++ [known]).contains key = true := by simp [same]
      rw [if_pos same, if_pos inProgress, Answer.nowhere]
    · have unchanged : (visiting ++ [known]).contains key = visiting.contains key := by simp [same]
      have inner := induction (key :: visiting)
      rw [List.cons_append] at inner
      rw [if_neg same, unchanged, inner]

end Compilation

/-! ## Paths that need neither imports nor globs -/

section Monotone
variable {lookup more : LookupFunction}
  (extended : ∀ key lexical found, lookup key lexical = some found →
    more key lexical = some found)
include extended

theorem Resolved.member?_mono {parent found : Resolved} {name : String} {space : Namespace}
    (member : member? lookup parent name space = some found) :
    member? more parent name space = some found := by
  cases parent with
  | module path =>
    unfold member? at member ⊢
    dsimp only at member ⊢
    by_cases isSelf : name = "self"
    · rwa [if_pos isSelf] at member ⊢
    · rw [if_neg isSelf] at member ⊢
      by_cases isSuper : name = "super"
      · rwa [if_pos isSuper] at member ⊢
      · rw [if_neg isSuper] at member ⊢
        exact extended _ _ _ member
  | item owner written definition => cases member
  | external external path => exact member
  | builtin id => cases member

theorem Resolved.members?_mono {space : Namespace} {found : Resolved} (names : List String) :
    ∀ parent, members? lookup space parent names = some found →
      members? more space parent names = some found := by
  induction names with
  | nil => exact fun parent members => members
  | cons name rest induction =>
    intro parent members
    rcases Option.bind_eq_some_iff.mp members with ⟨between, first, others⟩
    rw [members?, member?_mono extended first]
    exact induction between others

namespace Compilation

theorem first?_mono {module : ModulePath} {name : String} {space : Namespace} {found : Resolved}
    (first : first? lookup module name space = some found) :
    first? more module name space = some found := by
  unfold first? at first ⊢
  by_cases isCrate : name = "crate"
  · rwa [if_pos isCrate] at first ⊢
  · rw [if_neg isCrate] at first ⊢
    by_cases isSelf : name = "self"
    · rwa [if_pos isSelf] at first ⊢
    · rw [if_neg isSelf] at first ⊢
      by_cases isSuper : name = "super"
      · rwa [if_pos isSuper] at first ⊢
      · rw [if_neg isSuper] at first ⊢
        exact extended _ _ _ first

theorem follow?_mono {compilation : Compilation} {module : ModulePath} {path : Target}
    {space : Namespace} {found : Resolved}
    (follows : compilation.follow? lookup module path space = some found) :
    compilation.follow? more module path space = some found := by
  rcases path with ⟨global, segments⟩
  cases segments with
  | nil => cases follows
  | cons name rest =>
    cases global with
    | true =>
      rcases Option.bind_eq_some_iff.mp follows with ⟨first, starts, members⟩
      exact Option.bind_eq_some_iff.mpr
        ⟨first, starts, Resolved.members?_mono extended rest first members⟩
    | false =>
      rcases Option.bind_eq_some_iff.mp follows with ⟨first, starts, members⟩
      exact Option.bind_eq_some_iff.mpr
        ⟨first, first?_mono extended starts, Resolved.members?_mono extended rest first members⟩

end Compilation
end Monotone

namespace Compilation

variable (compilation : Compilation)

/-- Looks a name up among the declarations of its module, and as the name of a crate if its module
neither declares nor imports it. -/
def lookupDeclared? : LookupFunction := fun key lexical =>
  match compilation.declarations.definition? key.module key.space key.name with
  | some .module => some (.module (key.module ++ [key.name]))
  | some definition => some (.item key.module key.name definition)
  | none =>
    if lexical = true ∧ key.space = .type ∧
        compilation.declarations.imports key.module key.name = [] ∧
        compilation.declarations.globs key.module = [] then
      (compilation.crate? key.name).map fun external => .external external []
    else none

variable {compilation}

/-- A name that is imported only is not needed by a path that needs no imports. -/
theorem lookupKnowing?_of_lookupDeclared? {known : Lookup} {target : Target}
    (undefined : compilation.declarations.definition? known.module known.space known.name = none)
    (imported : compilation.declarations.imports known.module known.name = [target])
    (answer : Answer) (depth : Nat) (key : Lookup) (lexical : Bool) (found : Resolved)
    (declared : compilation.lookupDeclared? key lexical = some found) :
    compilation.lookupKnowing? known answer (depth + 1) [] key lexical = some found := by
  have different : key ≠ known := by
    rintro rfl
    simp [lookupDeclared?, undefined, imported] at declared
  unfold lookupDeclared? at declared
  rw [lookupKnowing?, if_neg different, if_neg (by simp)]
  cases defined : compilation.declarations.definition? key.module key.space key.name with
  | some definition =>
    rw [defined] at declared
    simp only [lookupInModule?, defined]
    cases definition <;> exact congrArg (Option.or · _) declared
  | none =>
    rw [defined] at declared
    rcases Option.ite_none_right_eq_some.mp declared with
      ⟨⟨rfl, type, unimported, alone⟩, registered⟩
    rcases Option.map_eq_some_iff.mp registered with ⟨external, named, rfl⟩
    have nothing (inner : LookupFunction) : compilation.lookupInModule? inner key = none := by
      simp only [lookupInModule?, defined, unimported, alone, List.findSome?_nil, Option.none_or]
    simp only [nothing, Option.none_or, lookupEverywhere?, named, type, decide_true, Bool.and_self,
      if_true]

/-! ## Modules from the root -/

variable (compilation)

/-- Each name on the way from the root to the module is declared as a module where it stands. -/
inductive Declares : ModulePath → Prop where
  | root : Declares []
  | inner {outer : ModulePath} {name : String} (around : Declares outer)
      (declared : compilation.declarations.definition? outer .type name = some .module)
      (free : name ∉ ["self", "super"]) : Declares (outer ++ [name])

/-- Whether a name stands for a module where it is declared. -/
def declaresModule (module : ModulePath) (name : String) : Bool :=
  match compilation.declarations.definition? module .type name with
  | some .module => true
  | some (.item _) => false
  | some (.typeAlias _ _) => false
  | some (.constant _ _) => false
  | none => false

variable {compilation}

theorem definition?_of_declaresModule {module : ModulePath} {name : String}
    (declares : compilation.declaresModule module name = true) :
    compilation.declarations.definition? module .type name = some .module := by
  unfold declaresModule at declares
  cases declared : compilation.declarations.definition? module .type name with
  | none =>
    rw [declared] at declares
    cases declares
  | some definition =>
    rw [declared] at declares
    cases definition with
    | module => rfl
    | item kind => cases declares
    | typeAlias ty parameters => cases declares
    | constant ty value => cases declares

theorem lookup?_module {module : ModulePath} {name : String}
    (declared : compilation.declarations.definition? module .type name = some .module)
    (depth : Nat) (lexical : Bool) :
    compilation.lookup? (depth + 1) [] ⟨module, name, .type⟩ lexical =
      some (.module (module ++ [name])) := by
  simp only [lookup?, lookupInModule?, declared, List.contains_nil, Bool.false_eq_true, if_false,
    Option.some_or]

theorem resolve?_crate {module : ModulePath} (declares : compilation.Declares module)
    (origin : ModulePath) :
    compilation.resolve? origin ⟨false, "crate" :: module⟩ .type = some (.module module) := by
  induction declares with
  | root => rfl
  | @inner outer name around declared free induction =>
    simp only [List.mem_cons, List.not_mem_nil, or_false, not_or] at free
    have longer := compilation.resolve?_member induction name .type
    simp only [Target.member, List.cons_append] at longer
    rw [longer, Resolved.member?, if_neg free.1, if_neg free.2]
    exact lookup?_module declared _ false

/-! ## Names from outside -/

variable (compilation)

/-- What the globs of a module show under a name. -/
def globbed? (lookup : LookupFunction) (key : Lookup) : Option Resolved :=
  (compilation.declarations.globs key.module).findSome? fun glob => do
    let source ← compilation.follow? lookup key.module glob .type
    source.member? lookup key.name key.space

variable {compilation}

theorem lookup?_imported {key : Lookup} {target : Target}
    (undefined : compilation.declarations.definition? key.module key.space key.name = none)
    (imported : compilation.declarations.imports key.module key.name = [target]) (depth : Nat) :
    compilation.lookup? (depth + 1) [] key false =
      (compilation.follow? (compilation.lookupKnowing? key .nowhere depth []) key.module target
        key.space).or (compilation.globbed? (compilation.lookupKnowing? key .nowhere depth []) key)
    := by
  have inProgress : compilation.lookup? depth [key] =
      compilation.lookupKnowing? key .nowhere depth [] := lookup?_concat depth []
  rw [lookup?, if_neg (by simp), inProgress]
  simp only [lookupInModule?, globbed?, undefined, imported, List.findSome?_cons,
    List.findSome?_nil, Bool.false_and, Bool.false_eq_true, if_false, Option.or_none]
  cases compilation.follow? _ key.module target key.space <;> rfl

/-- A path that starts with the name that is in progress leads nowhere. -/
theorem follow?_itself {key : Lookup} {rest : List String} (notCrate : key.name ≠ "crate")
    (notSelf : key.name ≠ "self") (notSuper : key.name ≠ "super")
    (same : Resolved.spaceBefore rest key.space = key.space) (depth : Nat) :
    compilation.follow? (compilation.lookupKnowing? key .nowhere depth []) key.module
      ⟨false, key.name :: rest⟩ key.space = none := by
  have nowhere : compilation.lookupKnowing? key .nowhere depth [] key true = none := by
    cases depth with
    | zero => rfl
    | succ depth => rw [lookupKnowing?, if_pos rfl, Answer.nowhere]
  simp only [follow?, Bool.false_eq_true, if_false, first?, notCrate, notSelf, notSuper, same,
    nowhere, bind, Option.bind_none]

/-- A name that is no more in its module than one import is shown to the outside, by every path
through the module, as what the imported path leads to if the name itself leads nowhere, or else as
what a glob shows. Inside the module the name has its own answers, so the two agree if the path does
not depend on the name, as one that needs neither imports nor globs. But with a path that starts with
the name, such as that of a crate which is imported under its own name, only globs show anything. -/
theorem resolve?_reexport (key : Lookup) {target : Target}
    (undefined : compilation.declarations.definition? key.module key.space key.name = none)
    (imported : compilation.declarations.imports key.module key.name = [target])
    (free : key.name ∉ ["self", "super"]) :
    let knowing := fun answer => compilation.lookupKnowing? key answer (maxDepth - 1) []
    let followed := fun answer => compilation.follow? (knowing answer) key.module target key.space
    let inside :=
      compilation.follow? (compilation.lookup? (maxDepth - 1) []) key.module target key.space
    inside = followed (.own compilation key) ∧
    (∀ found,
      compilation.follow? compilation.lookupDeclared? key.module target key.space = some found →
        ∀ answer, followed answer = some found) ∧
    (compilation.Declares key.module → ∀ origin,
      compilation.resolve? origin ⟨false, "crate" :: key.module⟩ .type =
        some (.module key.module)) ∧
    ∀ origin path, compilation.resolve? origin path .type = some (.module key.module) →
      let shown := compilation.resolve? origin (path.member key.name) key.space
      shown = (followed .nowhere).or (compilation.globbed? (knowing .nowhere) key) ∧
      (∀ found, inside = some found → (∀ answer, followed answer = inside) → shown = some found) ∧
      ∀ rest, target = ⟨false, key.name :: rest⟩ → key.name ≠ "crate" →
        Resolved.spaceBefore rest key.space = key.space →
          shown = compilation.globbed? (knowing .nowhere) key ∧
            (compilation.declarations.globs key.module = [] → shown = none) := by
  intro knowing followed inside
  refine ⟨?_, ?_, resolve?_crate, ?_⟩
  · exact congrArg (compilation.follow? · key.module target key.space)
      (lookupKnowing?_own key (maxDepth - 1) []).symm
  · intro found direct answer
    exact follow?_mono (lookupKnowing?_of_lookupDeclared? undefined imported answer _) direct
  · intro origin path through shown
    simp only [List.mem_cons, List.not_mem_nil, or_false, not_or] at free
    have shown_eq :
        shown = (followed .nowhere).or (compilation.globbed? (knowing .nowhere) key) := by
      have member := compilation.resolve?_member through key.name key.space
      rw [Resolved.member?, if_neg free.1, if_neg free.2] at member
      exact member.trans (lookup?_imported undefined imported (maxDepth - 1))
    refine ⟨shown_eq, ?_, ?_⟩
    · intro found leads independent
      rw [shown_eq, independent, leads, Option.some_or]
    · rintro rest rfl notCrate same
      have cut : followed .nowhere = none :=
        follow?_itself notCrate free.1 free.2 same (maxDepth - 1)
      have globbed : shown = compilation.globbed? (knowing .nowhere) key := by
        rw [shown_eq, cut, Option.none_or]
      refine ⟨globbed, fun alone => ?_⟩
      rw [globbed, globbed?, alone, List.findSome?_nil]

/-- A crate that a module imports under its own name is not seen there from outside, but an item of
the crate is. -/
theorem resolve?_reexport_prelude :
    let units := (SourceUnit.parse? "src/lib.rs" ""
      "mod prelude { pub use autoser; } mod errors { pub use autoser::Error as Failure; }").toList
    let compilation := Compilation.ofUnits units [.runtime "autoser"]
    (compilation.resolve? ["prelude"] ⟨false, ["autoser"]⟩ .type).map Resolved.symbol =
        some ⟨"::autoser", .external⟩ ∧
      (∀ origin,
        compilation.resolve? origin ⟨false, ["crate", "prelude", "autoser"]⟩ .type = none) ∧
      ∀ origin, (compilation.resolve? origin ⟨false, ["crate", "errors", "Failure"]⟩ .type).map
        Resolved.symbol = some ⟨"::autoser::Error", .external⟩ := by
  intro units compilation
  have facts :
      (∀ name ∈ ["prelude", "errors"], compilation.declaresModule [] name = true) ∧
      compilation.declarations.globs ["prelude"] = [] ∧
      (compilation.declarations.definition? ["prelude"] .type "autoser").isNone = true ∧
      (compilation.declarations.definition? ["errors"] .type "Failure").isNone = true ∧
      compilation.declarations.imports ["prelude"] "autoser" = [⟨false, ["autoser"]⟩] ∧
      compilation.declarations.imports ["errors"] "Failure" = [⟨false, ["autoser", "Error"]⟩] ∧
      (compilation.resolve? ["prelude"] ⟨false, ["autoser"]⟩ .type).map Resolved.symbol =
        some ⟨"::autoser", .external⟩ ∧
      (compilation.follow? compilation.lookupDeclared? ["errors"] ⟨false, ["autoser", "Error"]⟩
        .type).map Resolved.symbol = some ⟨"::autoser::Error", .external⟩ := by
    have read : _ = units := congrArg Option.toList SourceUnit.parse?_ofList.symm
    clear_value units
    subst read
    decide +kernel
  rcases facts with ⟨modules, alone, undefinedCrate, undefinedItem, importedCrate, importedItem,
    resolved, direct⟩
  have declares : ∀ name ∈ ["prelude", "errors"], compilation.Declares [name] := by
    intro name among
    have free : ∀ name ∈ ["prelude", "errors"], name ∉ ["self", "super"] := by decide
    exact .inner .root (definition?_of_declaresModule (modules name among)) (free name among)
  refine ⟨resolved, ?_, ?_⟩
  · intro origin
    rcases resolve?_reexport ⟨["prelude"], "autoser", .type⟩
      (Option.isNone_iff_eq_none.mp undefinedCrate) importedCrate (by decide) with
      ⟨_, _, fromRoot, shown⟩
    have through := fromRoot (declares "prelude" (by decide)) origin
    exact ((shown origin _ through).2.2 [] rfl (by decide) rfl).2 alone
  · intro origin
    rcases resolve?_reexport ⟨["errors"], "Failure", .type⟩
      (Option.isNone_iff_eq_none.mp undefinedItem) importedItem (by decide) with
      ⟨own, independent, fromRoot, shown⟩
    have through := fromRoot (declares "errors" (by decide)) origin
    rcases Option.map_eq_some_iff.mp direct with ⟨found, leads, same⟩
    have always := independent found leads
    have inside := own.trans (always _)
    have failure := (shown origin _ through).2.1 found inside fun answer =>
      (always answer).trans inside.symm
    rw [← same]
    exact congrArg (Option.map Resolved.symbol) failure

end Compilation
end Wireform.Names
