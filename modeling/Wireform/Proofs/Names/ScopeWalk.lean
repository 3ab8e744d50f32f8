import Mathlib.Data.List.Induction
import Wireform.Proofs.Names.ScopeTable

/-! # The walk over the sources

The place of a unit introduces the modules on the way to it, and an item the module that it
declares, and what is defined is entered in the scope around it. The table of scopes that comes of
it says what all the facts of the crate say. -/

namespace Wireform.Names

open Wireform.Syntax

namespace ScopeTable

/-- The scope of a module, whose names come from the inside out. Scopes that are missing are added
from the outside in. -/
def scopeOfReversed (table : ScopeTable) : List String → Nat × ScopeTable
  | [] => ((table.number? []).getD 0, table)
  | name :: outer =>
    let path := (name :: outer).reverse
    match table.number? path with
    | some number => (number, table)
    | none =>
      let (parent, table) := table.scopeOfReversed outer
      (table.scopes.length, table.add parent path name)

/-- The scope of a module, and the table in which it has one. -/
def scopeFor (table : ScopeTable) (path : ModulePath) : Nat × ScopeTable :=
  table.scopeOfReversed path.reverse

mutual
/-- Enters what an item of a scope defines. -/
def enterItem (table : ScopeTable) (number : Nat) : Item → ScopeTable
  | .struct declaration =>
    table.define number (.type, declaration.name.text) (.item (.item .struct))
  | .declaration kind name =>
    let (space, symbol) := symbolOf kind
    table.define number (space, name.text) (.item (.item symbol))
  | .typeAlias name parameters ty =>
    table.define number (.type, name.text) (.item (.typeAlias ty parameters.typeNames))
  | .constant name ty value => table.define number (.value, name.text) (.item (.constant ty value))
  | .module _ _ name content =>
    let (child, table) := table.scopeFor (table.pathOf number ++ [name.text])
    match content with
    | some items => table.enterItems child items
    | none => table
  | .use _ _ => table
  | .externalCrate _ _ => table
  | .implementation _ _ _ => table
  | .other => table

def enterItems (table : ScopeTable) (number : Nat) : List Item → ScopeTable
  | [] => table
  | head :: tail => (table.enterItem number head).enterItems number tail
end

def enterUnit (table : ScopeTable) (unit : SourceUnit) : ScopeTable :=
  let (number, table) := table.scopeFor unit.module
  table.enterItems number unit.items

/-- The table of all units, entered one after the other. -/
def ofUnits (units : List SourceUnit) : ScopeTable := units.foldl enterUnit initial

variable {table : ScopeTable} {facts more : Declarations}

theorem ofPath_concat (outer : ModulePath) (name : String) :
    Declaration.ofPath (outer ++ [name]) =
      Declaration.ofPath outer ++ [.module outer name] := by
  rw [Declaration.ofPath, Declaration.ofPath, List.length_append, List.length_singleton,
    List.range_succ, List.filterMap_append]
  congr 1
  · apply List.filterMap_congr
    intro depth among
    have within := List.mem_range.mp among
    rw [List.getElem?_append_left within, List.take_append_of_le_length (by omega)]
  · simp

/-- The facts are entered in the table, where every module keeps its number. -/
structure Enters (table : ScopeTable) (facts : Declarations) (entered : ScopeTable)
    (more : Declarations) : Prop where
  describes : entered.Describes (facts ++ more)
  kept : ∀ path number, table.number? path = some number → entered.number? path = some number

namespace Describes

theorem enters_silent (describes : table.Describes facts) (silent : more.Silent) :
    table.Enters facts table more :=
  ⟨describes.append_silent silent, fun _ _ => id⟩

theorem enters_define (describes : table.Describes facts) {module : ModulePath} {number : Nat}
    (numbered : table.number? module = some number) (space : Namespace) (name : String)
    {definition : Definition} (item : definition ≠ .module) :
    table.Enters facts (table.define number (space, name) (.item definition))
      [.definition module space name definition] :=
  ⟨describes.define numbered item, fun _ _ => id⟩

theorem enters_add (describes : table.Describes facts) {outer : ModulePath} {name : String}
    {parent : Nat} (numbered : table.number? outer = some parent)
    (new : table.number? (outer ++ [name]) = none) :
    table.Enters facts (table.add parent (outer ++ [name]) name) [.module outer name] := by
  refine ⟨describes.add numbered new, ?_⟩
  intro path number known
  rw [number?_add, if_neg]
  · exact known
  · rintro rfl
    rw [new] at known
    cases known

end Describes

theorem Enters.trans {between entered : ScopeTable} {later : Declarations}
    (first : table.Enters facts between more)
    (second : between.Enters (facts ++ more) entered later) :
    table.Enters facts entered (more ++ later) := by
  refine ⟨?_, fun path number known => second.kept path number (first.kept path number known)⟩
  rw [← List.append_assoc]
  exact second.describes

theorem scopeFor_concat (table : ScopeTable) (outer : ModulePath) (name : String) :
    table.scopeFor (outer ++ [name]) =
      match table.number? (outer ++ [name]) with
      | some number => (number, table)
      | none =>
        ((table.scopeFor outer).2.scopes.length,
          (table.scopeFor outer).2.add (table.scopeFor outer).1 (outer ++ [name]) name) := by
  unfold scopeFor
  rw [List.reverse_append, List.reverse_singleton, List.singleton_append, scopeOfReversed,
    List.reverse_cons, List.reverse_reverse]

theorem scopeFor_of_known {path : ModulePath} {number : Nat}
    (known : table.number? path = some number) : table.scopeFor path = (number, table) := by
  rcases List.eq_nil_or_concat path with rfl | ⟨outer, name, rfl⟩
  · simp [scopeFor, scopeOfReversed, known]
  · rw [List.concat_eq_append] at known ⊢
    rw [scopeFor_concat, known]

namespace Describes

theorem enters_inner (describes : table.Describes facts) {outer : ModulePath} {parent : Nat}
    (numbered : table.number? outer = some parent) (name : String) :
    table.Enters facts (table.scopeFor (outer ++ [name])).2 [.module outer name] ∧
      (table.scopeFor (outer ++ [name])).2.number? (outer ++ [name]) =
        some (table.scopeFor (outer ++ [name])).1 := by
  rw [scopeFor_concat]
  cases known : table.number? (outer ++ [name]) with
  | some number =>
    refine ⟨⟨describes.append_known ?_, fun _ _ => id⟩, known⟩
    rw [← describes.known, known]
    rfl
  | none =>
    rw [scopeFor_of_known numbered]
    refine ⟨describes.enters_add numbered known, ?_⟩
    rw [number?_add, if_pos rfl]

theorem append_path (describes : table.Describes facts) {path : ModulePath}
    (known : facts.hasModule path = true) :
    table.Describes (facts ++ Declaration.ofPath path) := by
  induction path using List.reverseRecOn with
  | nil => simpa [Declaration.ofPath] using describes
  | append_singleton outer name induction =>
    rw [ofPath_concat, ← List.append_assoc]
    apply (induction (describes.housed.outer known)).append_known
    rw [Declarations.hasModule_append, known, Bool.true_or]

theorem enters_path (describes : table.Describes facts) (path : ModulePath) :
    table.Enters facts (table.scopeFor path).2 (Declaration.ofPath path) ∧
      (table.scopeFor path).2.number? path = some (table.scopeFor path).1 := by
  induction path using List.reverseRecOn with
  | nil =>
    have root : (table.number? []).isSome = true := describes.known []
    rcases Option.isSome_iff_exists.mp root with ⟨number, found⟩
    rw [scopeFor_of_known found]
    exact ⟨⟨describes.append_path rfl, fun _ _ => id⟩, found⟩
  | append_singleton outer name induction =>
    rw [scopeFor_concat]
    cases found : table.number? (outer ++ [name]) with
    | some number =>
      refine ⟨⟨describes.append_path ?_, fun _ _ => id⟩, found⟩
      rw [← describes.known, found]
      rfl
    | none =>
      rcases induction with ⟨enters, numbered⟩
      have new : (table.scopeFor outer).2.number? (outer ++ [name]) = none := by
        rw [← Option.not_isSome_iff_eq_none, Bool.not_eq_true, enters.describes.known,
          Declarations.hasModule_append, ← describes.known, found]
        cases within : Declarations.hasModule (Declaration.ofPath outer) (outer ++ [name]) with
        | false => rfl
        | true =>
          -- The place of the module around it is too short to introduce it.
          rcases Declaration.exists_of_mem_ofPath (Declarations.mem_of_hasModule within) with
            ⟨_, _, same, around⟩
          cases same
          have length := around.length_le
          rw [List.length_append, List.length_singleton] at length
          omega
      refine ⟨?_, by rw [number?_add, if_pos rfl]⟩
      rw [ofPath_concat]
      exact enters.trans (enters.describes.enters_add numbered new)

end Describes

theorem pathOf_eq (describes : table.Describes facts) {path : ModulePath} {number : Nat}
    (numbered : table.number? path = some number) : table.pathOf number = path := by
  rcases (describes.number?_eq_some_iff path number).mp numbered with ⟨scope, found, same⟩
  rw [pathOf, found, Option.map_some, Option.getD_some, same]

theorem silent_of_isBinding {module : ModulePath}
    (binding : ∀ declaration ∈ more, Declaration.IsBinding module declaration) : more.Silent := by
  intro declaration among
  cases binding declaration among <;> exact ⟨nofun, nofun⟩

mutual
theorem Describes.enters_item (file : String) :
    ∀ (item : Item) {table : ScopeTable} {facts : Declarations} {module : ModulePath}
      {number : Nat}, table.Describes facts → table.number? module = some number →
      table.Enters facts (table.enterItem number item) (Declaration.ofItem file module item)
  | .struct declaration, _, _, _, _, describes, numbered =>
    describes.enters_define numbered .type declaration.name.text nofun
  | .declaration kind name, _, _, _, _, describes, numbered => by
    cases kind <;> exact describes.enters_define numbered _ name.text nofun
  | .typeAlias name parameters ty, _, _, _, _, describes, numbered =>
    describes.enters_define numbered .type name.text nofun
  | .constant name ty value, _, _, _, _, describes, numbered =>
    describes.enters_define numbered .value name.text nofun
  | .module attributes visible name content, table, facts, module, number, describes,
    numbered => by
    rcases describes.enters_inner numbered name.text with ⟨inner, child⟩
    have seen : Declarations.Silent [.visibility (module ++ [name.text]) visible] := by
      intro declaration among
      cases List.mem_singleton.mp among
      exact ⟨nofun, nofun⟩
    have declared := inner.trans (inner.describes.enters_silent seen)
    cases content with
    | none =>
      rw [enterItem, pathOf_eq describes numbered]
      exact declared
    | some items =>
      rw [enterItem, pathOf_eq describes numbered]
      exact declared.trans (declared.describes.enters_items file items child)
  | .use global tree, _, _, _, _, describes, _ =>
    describes.enters_silent
      (silent_of_isBinding fun _ => Declaration.isBinding_of_mem_ofUse tree [])
  | .externalCrate name newName, _, _, _, _, describes, _ =>
    describes.enters_silent
      (silent_of_isBinding fun _ => Declaration.isBinding_of_mem_ofExternalCrate)
  | .implementation parameters self methods, _, _, _, _, describes, _ => by
    apply describes.enters_silent
    intro declaration among
    cases List.mem_singleton.mp among
    exact ⟨nofun, nofun⟩
  | .other, _, _, _, _, describes, _ => describes.enters_silent nofun

theorem Describes.enters_items (file : String) :
    ∀ (items : List Item) {table : ScopeTable} {facts : Declarations} {module : ModulePath}
      {number : Nat}, table.Describes facts → table.number? module = some number →
      table.Enters facts (table.enterItems number items) (Declaration.ofItems file module items)
  | [], _, _, _, _, describes, _ => describes.enters_silent nofun
  | head :: tail, _, _, module, number, describes, numbered => by
    have first := describes.enters_item file head numbered
    exact first.trans (first.describes.enters_items file tail (first.kept module number numbered))
end

theorem Describes.enters_unit (describes : table.Describes facts) (unit : SourceUnit) :
    table.Enters facts (table.enterUnit unit) (Compilation.declarationsOf unit) := by
  rcases describes.enters_path unit.module with ⟨enters, numbered⟩
  exact enters.trans (enters.describes.enters_items unit.path unit.items numbered)

/-- The table of all units says what all their facts say. -/
theorem describes_ofUnits (units : List SourceUnit) (externalCrates : List ExternalCrate) :
    (ofUnits units).Describes (Compilation.ofUnits units externalCrates).declarations := by
  have walk (units : List SourceUnit) : ∀ {table : ScopeTable} {facts : Declarations},
      table.Describes facts →
        (units.foldl enterUnit table).Describes
          (facts ++ units.flatMap Compilation.declarationsOf) := by
    induction units with
    | nil =>
      intro table facts describes
      simpa using describes
    | cons unit rest induction =>
      intro table facts describes
      rw [List.flatMap_cons, ← List.append_assoc]
      exact induction (describes.enters_unit unit).describes
  exact walk units describes_initial

end ScopeTable

end Wireform.Names
