import Mathlib.Data.List.Nodup
import Wireform.Proofs.Names.Origin
import Wireform.Proofs.Names.Outlook

/-! # Order of units

Names do not depend on the order of the units. Apart from the mere existence of a module, all that
is known about it stands in its body. So where no two units hold the body of one module, its facts
come in one order, whatever the order of the units. A module that has the name of an item beside it
could come before the item or after it; such names have to be apart. -/

namespace Wireform.Names

open Wireform.Syntax

/-! ## Bodies -/

mutual
/-- The modules with a body in an item. -/
def Item.bodies (around : ModulePath) : Item → List ModulePath
  | .module _ _ name (some items) =>
    (around ++ [name.text]) :: Item.allBodies (around ++ [name.text]) items
  | _ => []

def Item.allBodies (around : ModulePath) : List Item → List ModulePath
  | [] => []
  | head :: tail => Item.bodies around head ++ Item.allBodies around tail
end

/-- The modules with a body in a unit: its own, and those written in place. -/
def SourceUnit.bodies (unit : SourceUnit) : List ModulePath :=
  unit.module :: Item.allBodies unit.module unit.items

theorem Item.bodies_subset_allBodies {around : ModulePath} {item : Item} {items : List Item}
    (among : item ∈ items) : Item.bodies around item ⊆ Item.allBodies around items := by
  induction items with
  | nil => cases among
  | cons head tail induction =>
    intro path inItem
    rw [Item.allBodies]
    rcases List.mem_cons.mp among with rfl | among
    · exact List.mem_append_left _ inItem
    · exact List.mem_append_right _ (induction among inItem)

theorem Contains.mem_bodies {around module : ModulePath} {items : List Item} {item : Item}
    (contains : Contains around items module item) :
    module ∈ around :: Item.allBodies around items := by
  induction contains with
  | here among => exact List.mem_cons_self
  | inside among _ induction =>
    apply List.mem_cons_of_mem
    apply Item.bodies_subset_allBodies among
    rw [Item.bodies]
    exact induction

/-! ## Facts of one module -/

/-- The fact comes from the body of this module. Only of its existence a module's body says
nothing. -/
def Declaration.IsIn (path : ModulePath) : Declaration → Prop
  | .module _ _ => False
  | .visibility inner _ => inner.dropLast = path
  | .definition owner _ _ _ => owner = path
  | .importing owner _ _ => owner = path
  | .glob owner _ => owner = path
  | .crateAlias _ _ => path = []
  | .implementation owner _ _ _ => owner = path

namespace Declaration

variable {path module : ModulePath} {declaration : Declaration}

theorem IsBinding.eq_of_isIn (binding : IsBinding module declaration)
    (isIn : declaration.IsIn path) : module = path := by
  cases binding with
  | importing name target => exact isIn
  | glob target => exact isIn
  | crateAlias atRoot name target => exact atRoot.trans isIn.symm

theorem States.eq_of_isIn {file : String} {item : Item}
    (states : States file module item declaration) (isIn : declaration.IsIn path) :
    module = path := by
  cases states with
  | definition defines => exact isIn
  | module attributes visible name content => cases isIn
  | visibility attributes visible name content =>
    rw [← isIn, List.dropLast_concat]
  | binding binding => exact binding.eq_of_isIn isIn
  | implementation parameters self methods => exact isIn

theorem IsIn.mem_bodies {unit : SourceUnit} (isIn : declaration.IsIn path)
    (stated : declaration ∈ Compilation.declarationsOf unit) : path ∈ unit.bodies := by
  rcases Compilation.mem_declarationsOf stated with
    ⟨owner, name, rfl, _⟩ | ⟨module, item, contains, states⟩
  · cases isIn
  · rw [← states.eq_of_isIn isIn]
    exact contains.mem_bodies

end Declaration

/-! ## Units in another order -/

/-- Where at most one of the values contributes anything, their order does not matter. -/
theorem flatMap_eq_of_perm {α β : Type} {f : α → List β} {left right : List α}
    (perm : List.Perm left right)
    (lone : left.Pairwise fun first second => f first = [] ∨ f second = []) :
    left.flatMap f = right.flatMap f := by
  induction perm with
  | nil => rfl
  | cons value rest induction =>
    rw [List.flatMap_cons, List.flatMap_cons, induction (List.pairwise_cons.mp lone).2]
  | swap first second rest =>
    have either := (List.pairwise_cons.mp lone).1 first List.mem_cons_self
    simp only [List.flatMap_cons]
    -- One of the two contributes nothing, so nothing is exchanged.
    rcases either with nothing | nothing <;> simp [nothing]
  | trans front back frontInduction backInduction =>
    rw [frontInduction lone]
    apply backInduction
    exact (front.pairwise_iff fun either => either.symm).mp lone

section Perm

variable {left right : List SourceUnit} {externalCrates : List ExternalCrate}

theorem perm_declarations (perm : List.Perm left right) :
    List.Perm (Compilation.ofUnits left externalCrates).declarations
      (Compilation.ofUnits right externalCrates).declarations :=
  perm.flatMap_right _

theorem filterMap_declarations_of_perm (perm : List.Perm left right)
    (single : (left.flatMap SourceUnit.bodies).Nodup) {α : Type} {choose : Declaration → Option α}
    (path : ModulePath)
    (isIn : ∀ declaration value, choose declaration = some value → declaration.IsIn path) :
    (Compilation.ofUnits left externalCrates).declarations.filterMap choose =
      (Compilation.ofUnits right externalCrates).declarations.filterMap choose := by
  -- A unit without the body of the module contributes nothing.
  have nothing : ∀ unit : SourceUnit, path ∉ unit.bodies →
      (Compilation.declarationsOf unit).filterMap choose = [] := by
    intro unit elsewhere
    rw [List.filterMap_eq_nil_iff]
    intro declaration states
    cases chosen : choose declaration with
    | none => rfl
    | some value => exact absurd ((isIn declaration value chosen).mem_bodies states) elsewhere
  simp only [Compilation.ofUnits, List.filterMap_flatMap]
  apply flatMap_eq_of_perm perm
  apply (List.nodup_flatMap.mp single).2.imp
  intro first second disjoint
  by_cases inFirst : path ∈ first.bodies
  · exact .inr (nothing second fun inSecond => disjoint inFirst inSecond)
  · exact .inl (nothing first inFirst)

end Perm

/-! ## Names of modules and of items -/

namespace Declarations

/-- No module declares an item that has the name of a module inside it. -/
def NamesApart (declarations : Declarations) : Prop :=
  ∀ path name definition, .module path name ∈ declarations →
    .definition path .type name definition ∉ declarations

/-- Whether one fact is a module of the name that the other gives to an item. -/
def clash : Declaration → Declaration → Bool
  | .module path name, .definition owner .type written _ => owner = path ∧ written = name
  | _, _ => false

theorem namesApart_iff {declarations : Declarations} : declarations.NamesApart ↔
    ∀ declaration ∈ declarations, ∀ other ∈ declarations, clash declaration other = false := by
  constructor
  · intro apart declaration isModule other isItem
    cases clashes : clash declaration other with
    | false => rfl
    | true =>
      unfold clash at clashes
      split at clashes
      · rcases of_decide_eq_true clashes with ⟨rfl, rfl⟩
        exact absurd isItem (apart _ _ _ isModule)
      · cases clashes
  · intro apart path name definition isModule isItem
    have clashes := apart _ isModule _ isItem
    simp [clash] at clashes

instance (declarations : Declarations) : Decidable declarations.NamesApart :=
  decidable_of_iff _ namesApart_iff.symm

/-- What a name is declared as, apart from modules. -/
def items (declarations : Declarations) (path : ModulePath) (space : Namespace) (name : String) :
    List Definition :=
  declarations.filterMap fun
    | .definition owner other written definition =>
      if owner = path ∧ other = space ∧ written = name then some definition else none
    | _ => none

/-- Whether a module of this name is declared. -/
def declares (declarations : Declarations) (path : ModulePath) (name : String) : Bool :=
  declarations.any fun
    | .module owner written => owner = path ∧ written = name
    | _ => false

theorem declares_iff {declarations : Declarations} {path : ModulePath} {name : String} :
    declarations.declares path name = true ↔ .module path name ∈ declarations := by
  constructor
  · intro declared
    rcases List.any_eq_true.mp declared with ⟨declaration, among, spelled⟩
    cases declaration with
    | module owner written =>
      rcases of_decide_eq_true spelled with ⟨rfl, rfl⟩
      exact among
    | _ => cases spelled
  · intro among
    exact List.any_eq_true.mpr ⟨_, among, by simp⟩

/-- Where names are apart, a name is that of a module or that of the first item. -/
theorem definition?_eq {declarations : Declarations} (apart : declarations.NamesApart)
    (path : ModulePath) (space : Namespace) (name : String) :
    declarations.definition? path space name =
      if space = .type ∧ declarations.declares path name = true then some .module
      else (declarations.items path space name).head? := by
  by_cases isModule : space = .type ∧ declarations.declares path name = true
  · rw [if_pos isModule]
    rcases isModule with ⟨rfl, declared⟩
    have among := declares_iff.mp declared
    cases found : declarations.definition? path .type name with
    | none =>
      have missed := List.findSome?_eq_none_iff.mp found _ among
      simp at missed
    | some definition =>
      rcases List.exists_of_findSome?_eq_some found with ⟨declaration, stated, chosen⟩
      cases declaration with
      | module owner written =>
        rcases Option.ite_none_right_eq_some.mp chosen with ⟨_, same⟩
        exact same.symm
      | definition owner other written stands =>
        rcases Option.ite_none_right_eq_some.mp chosen with ⟨⟨rfl, rfl, rfl⟩, _⟩
        exact absurd stated (apart _ _ _ among)
      | _ => cases chosen
  · rw [if_neg isModule, items, List.head?_filterMap, definition?]
    rw [← List.head?_filterMap, ← List.head?_filterMap]
    apply congrArg List.head?
    apply List.filterMap_congr
    intro declaration among
    cases declaration with
    | module owner written =>
      dsimp only
      rw [if_neg]
      rintro ⟨rfl, rfl, rfl⟩
      exact isModule ⟨rfl, declares_iff.mpr among⟩
    | _ => rfl

variable {left right : Declarations}

theorem NamesApart.of_perm (apart : left.NamesApart) (perm : List.Perm left right) :
    right.NamesApart := by
  intro path name definition isModule isItem
  exact apart path name definition (perm.mem_iff.mpr isModule) (perm.mem_iff.mpr isItem)

end Declarations

/-- In whatever order the units come, the same can be seen of the crate. -/
theorem Compilation.sameOutlook_of_perm {left right : List SourceUnit}
    {externalCrates : List ExternalCrate} (perm : List.Perm left right)
    (single : (left.flatMap SourceUnit.bodies).Nodup)
    (apart : (Compilation.ofUnits left externalCrates).declarations.NamesApart) :
    (Compilation.ofUnits left externalCrates).SameOutlook (.ofUnits right externalCrates) where
  crates := rfl
  hasModule := by
    funext path
    rw [Declarations.hasModule, Declarations.hasModule, (perm_declarations perm).any_eq]
  definition? := by
    funext path space name
    have items : (ofUnits left externalCrates).declarations.items path space name =
        (ofUnits right externalCrates).declarations.items path space name := by
      apply filterMap_declarations_of_perm perm single path
      intro declaration definition chosen
      cases declaration with
      | definition owner other written stated =>
        exact (Option.ite_none_right_eq_some.mp chosen).1.1
      | _ => cases chosen
    rw [Declarations.definition?_eq apart,
      Declarations.definition?_eq (apart.of_perm (perm_declarations perm)), items,
      Declarations.declares, Declarations.declares, (perm_declarations perm).any_eq]
  imports := by
    funext path name
    apply filterMap_declarations_of_perm perm single path
    intro declaration target chosen
    cases declaration with
    | importing owner written stated => exact (Option.ite_none_right_eq_some.mp chosen).1.1
    | _ => cases chosen
  globs := by
    funext path
    apply filterMap_declarations_of_perm perm single path
    intro declaration target chosen
    cases declaration with
    | glob owner stated => exact (Option.ite_none_right_eq_some.mp chosen).1
    | _ => cases chosen
  crateAlias? := by
    funext name
    apply congrArg List.getLast?
    apply filterMap_declarations_of_perm perm single []
    intro declaration target chosen
    cases declaration with
    | crateAlias written stated => rfl
    | _ => cases chosen
  visibility? := by
    funext path
    rw [Declarations.visibility?, Declarations.visibility?, ← List.head?_filterMap,
      ← List.head?_filterMap]
    apply congrArg List.head?
    -- The module around it declares it, with its visibility.
    apply filterMap_declarations_of_perm perm single path.dropLast
    intro declaration visible chosen
    cases declaration with
    | visibility inner written =>
      exact congrArg List.dropLast (Option.ite_none_right_eq_some.mp chosen).1
    | _ => cases chosen
  any_eq asks _ := (perm_declarations perm).any_eq

end Wireform.Names
