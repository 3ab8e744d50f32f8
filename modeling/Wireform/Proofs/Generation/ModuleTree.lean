import Wireform.Proofs.Generation.FileNames
import Wireform.Proofs.Generation.SourceOrder
import Wireform.Proofs.Names.Reexport
import Wireform.Proofs.Names.ScopeWalk
import Wireform.Proofs.Names.UnitOrder

/-! # The module tree

The scopes of a crate are a tree: one for each module, inside the scope of the module around it. All
structs that could be marked are found in it, and where names are unique each of them has the path
that its place spells. -/

namespace Wireform.Names

open Wireform.Syntax

/-! ## Scopes -/

/-- The scopes are those of the modules of the crate, each inside that of the module around it, where
its name stands for it or for an item that was defined before it. What a scope knows is what can be
looked up in its module. -/
structure ScopeTable.IsTree (table : ScopeTable) (compilation : Compilation) : Prop where
  modules : ∀ path, (table.number? path).isSome = true ↔ compilation.Introduces path
  bijective : ∀ path number, table.number? path = some number ↔
    ∃ scope, table.scopes[number]? = some scope ∧ scope.path = path
  root : ∀ (number : Nat) (scope : Scope), table.scopes[number]? = some scope →
    scope.path = [] → scope.parent = none
  inner : ∀ (number : Nat) (scope : Scope), table.scopes[number]? = some scope →
    ∀ outer name, scope.path = outer ++ [name] → ∃ parent around, scope.parent = some parent ∧
      table.scopes[parent]? = some around ∧ around.path = outer ∧
      (around.entries.lookup (.type, name) = some (.scope number) ∨
        ∃ definition before after, around.entries.lookup (.type, name) = some (.item definition) ∧
          compilation.declarations = before ++ .definition outer .type name definition :: after ∧
          .module outer name ∉ before)
  definitions : ∀ (number : Nat) (scope : Scope), table.scopes[number]? = some scope →
    ∀ space name, scope.entries.lookup (space, name) =
      (compilation.declarations.definition? scope.path space name).bind
        (table.entryFor? (scope.path ++ [name]))

/-- What a name is defined as is what the first fact about it says. -/
theorem Declarations.exists_append_of_definition? {facts : Declarations} {path : ModulePath}
    {name : String} {definition : Definition}
    (found : facts.definition? path .type name = some definition) (item : definition ≠ .module) :
    ∃ before after, facts = before ++ .definition path .type name definition :: after ∧
      .module path name ∉ before := by
  rcases List.findSome?_eq_some_iff.mp found with ⟨before, fact, after, split, chosen, missed⟩
  have first : fact = .definition path .type name definition := by
    cases fact with
    | module owner written =>
      exact absurd (Option.some.inj (Option.ite_none_right_eq_some.mp chosen).2).symm item
    | definition owner space written stated =>
      rcases Option.ite_none_right_eq_some.mp chosen with ⟨⟨rfl, rfl, rfl⟩, same⟩
      rw [Option.some.inj same]
    | _ => cases chosen
  refine ⟨before, after, by rw [split, first], ?_⟩
  intro among
  simpa using missed _ among

theorem ScopeTable.isTree_ofUnits (units : List SourceUnit) (externalCrates : List ExternalCrate) :
    (ofUnits units).IsTree (.ofUnits units externalCrates) := by
  have describes := describes_ofUnits units externalCrates
  refine ⟨?_, describes.number?_eq_some_iff, ?_, ?_, describes.entries⟩
  · intro path
    rw [describes.known]
    exact ⟨Compilation.introduces_of_hasModule, Compilation.hasModule_of_introduces⟩
  · intro number scope found atRoot
    rw [describes.parent number scope found, atRoot]
    rfl
  · intro number scope found outer name inner
    have numbered := (describes.number?_eq_some_iff (outer ++ [name]) number).mpr
      ⟨scope, found, inner⟩
    have known := describes.known (outer ++ [name])
    rw [numbered, Option.isSome_some] at known
    have outside := describes.housed.outer known.symm
    rw [← describes.known] at outside
    rcases Option.isSome_iff_exists.mp outside with ⟨parent, parentNumbered⟩
    rcases (describes.number?_eq_some_iff outer parent).mp parentNumbered with
      ⟨around, aroundFound, place⟩
    refine ⟨parent, around, ?_, aroundFound, place, ?_⟩
    · rw [describes.parent number scope found, inner, ModulePath.parent?_concat, Option.bind_some,
        parentNumbered]
    · have defined :=
        Declarations.definition?_isSome_of_mem (Declarations.mem_of_hasModule known.symm)
      rcases Option.isSome_iff_exists.mp defined with ⟨definition, first⟩
      rw [describes.entries parent around aroundFound, place, first, Option.bind_some]
      by_cases isModule : definition = .module
      · left
        rw [isModule, entryFor?, numbered, Option.map_some]
      · right
        rcases Declarations.exists_append_of_definition? first isModule with
          ⟨before, after, facts, missed⟩
        exact ⟨definition, before, after, entryFor?_of_ne_module isModule _, facts, missed⟩

/-! ## Unique names -/

/-- The names of the type namespace that items are given, as often as they are. -/
def Declarations.typeNames (declarations : Declarations) : List (ModulePath × String) :=
  declarations.filterMap fun
    | .definition module .type name _ => some (module, name)
    | _ => none

/-- An item whose name is given to nothing else is found under its name. -/
theorem Declarations.definition?_eq_of_mem {facts : Declarations} {path : ModulePath}
    {name : String} {definition : Definition} (unique : facts.typeNames.Nodup)
    (apart : .module path name ∉ facts) (among : .definition path .type name definition ∈ facts) :
    facts.definition? path .type name = some definition := by
  induction facts with
  | nil => cases among
  | cons head tail induction =>
    have laterUnique : typeNames tail |>.Nodup :=
      unique.sublist ((List.sublist_cons_self head tail).filterMap _)
    have later := induction laterUnique fun declared => apart (List.mem_cons_of_mem _ declared)
    change definition? ([head] ++ tail) path .type name = some definition
    rw [definition?_append]
    cases head with
    | module owner written =>
      have elsewhere : ¬(owner = path ∧ Namespace.type = .type ∧ written = name) := by
        rintro ⟨rfl, _, rfl⟩
        exact apart List.mem_cons_self
      rw [defines_module owner written, if_neg elsewhere, Option.none_or]
      exact later (by simpa using among)
    | definition owner space written stated =>
      rw [defines_definition owner space written]
      by_cases same : owner = path ∧ space = .type ∧ written = name
      · rcases same with ⟨rfl, rfl, rfl⟩
        rcases List.mem_cons.mp among with first | repeated
        · cases first
          simp
        · have named : (owner, written) ∈ typeNames tail :=
            List.mem_filterMap.mpr ⟨_, repeated, rfl⟩
          exact absurd named (List.nodup_cons.mp unique).1
      · rw [if_neg same, Option.none_or]
        apply later
        rcases List.mem_cons.mp among with first | repeated
        · cases first
          exact absurd ⟨rfl, rfl, rfl⟩ same
        · exact repeated
    | _ => exact later (by simpa using among)

namespace Compilation

variable {units : List SourceUnit} {externalCrates : List ExternalCrate} {module : ModulePath}

theorem declares_of_introduces
    (apart : (ofUnits units externalCrates).declarations.NamesApart)
    (introduces : (ofUnits units externalCrates).Introduces module)
    (free : ∀ name ∈ module, name ∉ ["self", "super"]) :
    (ofUnits units externalCrates).Declares module := by
  induction module using List.reverseRecOn with
  | nil => exact .root
  | append_singleton outer name induction =>
    rw [List.forall_mem_append, List.forall_mem_singleton] at free
    have among := Declarations.mem_of_hasModule (hasModule_of_introduces introduces)
    have declared := Declarations.definition?_eq apart outer .type name
    rw [if_pos ⟨rfl, Declarations.declares_iff.mpr among⟩] at declared
    have around := introduces.parent (ModulePath.parent?_concat outer name)
    exact .inner (induction around free.1) declared free.2

theorem lookup?_item {compilation : Compilation} (key : Lookup) {definition : Definition}
    (declared : compilation.declarations.definition? key.module key.space key.name =
      some definition) (item : definition ≠ .module) (depth : Nat) (lexical : Bool) :
    compilation.lookup? (depth + 1) [] key lexical =
      some (.item key.module key.name definition) := by
  simp only [lookup?, lookupInModule?, declared, List.contains_nil, Bool.false_eq_true, if_false]
  cases definition with
  | module => exact absurd rfl item
  | _ => rfl

end Compilation

end Wireform.Names

namespace Wireform.Generation

open Wireform.Names Wireform.Syntax

variable {units : List SourceUnit} {externalCrates : List ExternalCrate}

/-- Where names are unique, a struct is found under its path from the root. -/
theorem resolve?_candidate {candidate : Candidate}
    (places : ∀ unit ∈ units, ∀ name ∈ unit.module, name ∉ pathWords)
    (apart : (Compilation.ofUnits units externalCrates).declarations.NamesApart)
    (unique : (Compilation.ofUnits units externalCrates).declarations.typeNames.Nodup)
    (selected : candidate ∈ Candidate.select (.ofUnits units externalCrates))
    (origin : ModulePath) :
    (Compilation.ofUnits units externalCrates).resolve? origin ⟨false, "crate" :: candidate.path⟩
      .type = some (.item candidate.module candidate.typeName (.item .struct)) := by
  have contains := Candidate.contains_of_mem_select selected
  have identifier (name : Name) (identifier : name.isIdentifier = true) :
      name.text ∉ pathWords :=
    (Name.isIdentifier_iff.mp identifier).2
  have subset {name : String} (free : name ∉ pathWords) : name ∉ ["self", "super"] := by
    intro among
    have words : ∀ word ∈ ["self", "super"], word ∈ pathWords := by decide
    exact free (words name among)
  have free := forall_names_of_contains identifier places contains
  have own : candidate.typeName ∉ ["self", "super"] :=
    subset (identifier _ contains.isIdentified)
  have declares := Compilation.declares_of_introduces apart contains.introduces
    fun name among => subset (free name among)
  have stated : .definition candidate.module .type candidate.typeName (.item .struct) ∈
      (Compilation.ofUnits units externalCrates).declarations := by
    rcases contains with ⟨unit, unitAmong, inUnit⟩
    refine List.mem_flatMap.mpr ⟨unit, unitAmong, List.mem_append_right _ ?_⟩
    exact Declaration.mem_ofItems_of_contains inUnit List.mem_cons_self
  have declared := Declarations.definition?_eq_of_mem unique
    (fun isModule => apart _ _ _ isModule stated) stated
  have member := Compilation.resolve?_member _ (Compilation.resolve?_crate declares origin)
    candidate.typeName .type
  simp only [List.mem_cons, List.not_mem_nil, or_false, not_or] at own
  rw [Resolved.member?, if_neg own.1, if_neg own.2] at member
  have item : Definition.item .struct ≠ .module := by
    intro same
    cases same
  exact member.trans
    (Compilation.lookup?_item ⟨candidate.module, candidate.typeName, .type⟩ declared item _ false)

/-- The scopes of a crate are a tree of its modules, and its candidates are all structs with an
attribute that is no documentation, in source order and each once, in modules with a scope. Where no
module gives a name of the type namespace twice, every candidate is found under its path from the
root, from every module, as a struct with the identity that it was declared with. -/
theorem moduleTree_candidates (externalCrates : List ExternalCrate)
    (places : ∀ unit ∈ units, ∀ name ∈ unit.module, name ∉ pathWords) :
    let compilation := Compilation.ofUnits units externalCrates
    let table := ScopeTable.ofUnits units
    table.IsTree compilation ∧
      (∃ places, FoundInOrder (Candidate.at? units) places (Candidate.select compilation)) ∧
      (∀ candidate ∈ Candidate.select compilation,
        (table.number? candidate.module).isSome = true) ∧
      (compilation.declarations.NamesApart → compilation.declarations.typeNames.Nodup →
        ∀ candidate ∈ Candidate.select compilation, ∀ (origin : ModulePath) (path : Path),
          Target.ofPath path = ⟨false, "crate" :: candidate.path⟩ →
          compilation.symbol? origin path .type =
            some ⟨Compilation.declaredSymbol candidate.module candidate.declaration.name,
              .struct⟩) := by
  intro compilation table
  have isTree := ScopeTable.isTree_ofUnits units externalCrates
  refine ⟨isTree, Candidate.exists_foundInOrder_select units externalCrates, ?_, ?_⟩
  · intro candidate selected
    exact (isTree.modules _).mpr (Candidate.contains_of_mem_select selected).introduces
  · intro apart unique candidate selected origin path spelled
    rw [Compilation.symbol?, Compilation.resolvePath?, spelled,
      resolve?_candidate places apart unique selected origin]
    rfl

/-- A module that is written in place, and one that no item declares. -/
theorem moduleTree_candidates_nested :
    let root := (SourceUnit.parse? "src/lib.rs" "" "mod a \x7b #[on] struct S; \x7d").toList
    let orphan := (SourceUnit.parse? "src/a/b.rs" "a::b" "struct S; #[on] struct T;").toList
    let compilation := Compilation.ofUnits (root ++ orphan) []
    let spelled (candidate : Candidate) : Path :=
      Syntax.Path.mk false (("crate" :: candidate.path).map fun text => .plain (.plain text))
    (ScopeTable.ofUnits (root ++ orphan)).scopes.map (fun scope => (scope.path, scope.parent)) =
        [([], none), (["a"], some 0), (["a", "b"], some 1)] ∧
      (Candidate.select compilation).map (fun candidate =>
        Compilation.declaredSymbol candidate.module candidate.declaration.name) =
          ["crate::a::S", "crate::a::b::T"] ∧
      ∀ candidate ∈ Candidate.select compilation, ∀ origin,
        compilation.symbol? origin (spelled candidate) .type =
          some ⟨Compilation.declaredSymbol candidate.module candidate.declaration.name,
            .struct⟩ := by
  intro root orphan compilation spelled
  have facts :
      (ScopeTable.ofUnits (root ++ orphan)).scopes.map (fun scope => (scope.path, scope.parent)) =
        [([], none), (["a"], some 0), (["a", "b"], some 1)] ∧
      (Candidate.select compilation).map (fun candidate =>
        Compilation.declaredSymbol candidate.module candidate.declaration.name) =
          ["crate::a::S", "crate::a::b::T"] ∧
      (∀ candidate ∈ Candidate.select compilation,
        Target.ofPath (spelled candidate) = ⟨false, "crate" :: candidate.path⟩) ∧
      compilation.declarations.NamesApart ∧ compilation.declarations.typeNames.Nodup ∧
      ∀ unit ∈ root ++ orphan, ∀ name ∈ unit.module, name ∉ pathWords := by
    have read : _ = root := congrArg Option.toList SourceUnit.parse?_ofList.symm
    clear_value root
    subst read
    have read : _ = orphan := congrArg Option.toList SourceUnit.parse?_ofList.symm
    clear_value orphan
    subst read
    decide +kernel
  rcases facts with ⟨scopes, symbols, targets, apart, unique, places⟩
  refine ⟨scopes, symbols, ?_⟩
  intro candidate selected origin
  rcases moduleTree_candidates [] places with ⟨_, _, _, found⟩
  exact found apart unique candidate selected origin (spelled candidate) (targets candidate selected)

end Wireform.Generation
