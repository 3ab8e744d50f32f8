import Wireform.Proofs.Names.Origin

/-! # Type aliases in sources

The facts of a crate keep of an alias its type and the names of its type parameters. The sources
say more, such as the defaults of the parameters. Both speak of the same alias: where several have
one name, of the first. -/

namespace Wireform.Names

open Wireform.Syntax

structure Alias where
  module : ModulePath
  name : Name
  parameters : Parameters
  body : Ty

namespace Alias

mutual
def ofItem (module : ModulePath) : Item → List Alias
  | .typeAlias name parameters ty => [⟨module, name, parameters, ty⟩]
  | .module _ _ name (some items) => ofItems (module ++ [name.text]) items
  | _ => []

/-- The aliases among the items of a module and in the modules written among them. -/
def ofItems (module : ModulePath) : List Item → List Alias
  | [] => []
  | head :: tail => ofItem module head ++ ofItems module tail
end

def declaration (synonym : Alias) : Declaration :=
  .definition synonym.module .type synonym.name.text
    (.typeAlias synonym.body synonym.parameters.typeNames)

end Alias

def Declaration.isAlias : Declaration → Bool
  | .definition _ .type _ (.typeAlias _ _) => true
  | _ => false

/-- The first declaration of an alias. -/
def Compilation.alias? (compilation : Compilation) (module : ModulePath) (name : String) :
    Option Alias :=
  (compilation.units.flatMap fun unit => Alias.ofItems unit.module unit.items).find? fun synonym =>
    synonym.module = module ∧ synonym.name.text = name

namespace Declaration

theorem filter_isAlias_eq_nil {declarations : List Declaration}
    (others : ∀ declaration ∈ declarations, declaration.isAlias = false) :
    declarations.filter isAlias = [] := by
  rw [List.filter_eq_nil_iff]
  intro declaration among
  exact Bool.eq_false_iff.mp (others declaration among)

theorem IsBinding.isAlias {module : ModulePath} {declaration : Declaration}
    (binding : IsBinding module declaration) : declaration.isAlias = false := by
  cases binding <;> rfl

mutual
theorem filter_isAlias_ofItem {file : String} : ∀ (item : Item) (around : ModulePath),
    (ofItem file around item).filter isAlias = (Alias.ofItem around item).map Alias.declaration
  | .struct _, _ => rfl
  | .declaration kind _, _ => by cases kind <;> rfl
  | .typeAlias _ _ _, _ => rfl
  | .constant _ _ _, _ => rfl
  | .module _ _ _ none, _ => rfl
  | .module _ _ name (some inner), around => by
    rw [ofItem, Alias.ofItem, ← filter_isAlias_ofItems inner]
    rfl
  | .use _ tree, _ =>
    filter_isAlias_eq_nil fun _ among => (isBinding_of_mem_ofUse tree [] among).isAlias
  | .externalCrate _ _, _ =>
    filter_isAlias_eq_nil fun _ among => (isBinding_of_mem_ofExternalCrate among).isAlias
  | .implementation _ _ _, _ => rfl
  | .other, _ => rfl

theorem filter_isAlias_ofItems {file : String} : ∀ (items : List Item) (around : ModulePath),
    (ofItems file around items).filter isAlias = (Alias.ofItems around items).map Alias.declaration
  | [], _ => rfl
  | head :: tail, around => by
    rw [ofItems, Alias.ofItems, List.filter_append, List.map_append, filter_isAlias_ofItem head,
      filter_isAlias_ofItems tail]
end

theorem filter_isAlias_ofPath (path : ModulePath) : (ofPath path).filter isAlias = [] := by
  apply filter_isAlias_eq_nil
  intro declaration among
  rcases List.mem_filterMap.mp among with ⟨depth, _, stated⟩
  rcases Option.map_eq_some_iff.mp stated with ⟨written, _, rfl⟩
  rfl

end Declaration

theorem findSome?_filter_of_eq_some {α β : Type} {choose : α → Option β} (keep : α → Bool)
    {chosen : β} (kept : ∀ element, choose element = some chosen → keep element = true)
    {list : List α} (found : list.findSome? choose = some chosen) :
    (list.filter keep).findSome? choose = some chosen := by
  induction list with
  | nil => cases found
  | cons head tail induction =>
    rw [List.findSome?_cons] at found
    cases first : choose head with
    | none =>
      rw [first] at found
      have inTail := induction found
      cases keeps : keep head with
      | false => rwa [List.filter_cons_of_neg (by simp [keeps])]
      | true => rwa [List.filter_cons_of_pos keeps, List.findSome?_cons, first]
    | some other =>
      rw [first] at found
      cases found
      rw [List.filter_cons_of_pos (kept head first), List.findSome?_cons, first]

theorem findSome?_ite {α β : Type} (holds : α → Prop) [DecidablePred holds] (value : α → β)
    (list : List α) :
    (list.findSome? fun element => if holds element then some (value element) else none) =
      (list.find? fun element => holds element).map value := by
  induction list with
  | nil => rfl
  | cons head tail induction =>
    by_cases first : holds head
    · rw [List.findSome?_cons, if_pos first, List.find?_cons_of_pos (by simpa using first)]
      rfl
    · rw [List.findSome?_cons, if_neg first, List.find?_cons_of_neg (by simpa using first),
        induction]

namespace Declarations

variable {module : ModulePath} {name : String}

theorem definition?_filter {declarations : Declarations} {ty : Ty} {parameters : List Name}
    (declared : declarations.definition? module .type name = some (.typeAlias ty parameters)) :
    definition? (declarations.filter Declaration.isAlias) module .type name =
      some (.typeAlias ty parameters) := by
  refine findSome?_filter_of_eq_some Declaration.isAlias ?_ declared
  intro declaration chosen
  cases declaration with
  | definition owner space written definition =>
    rcases Option.ite_none_right_eq_some.mp chosen with ⟨⟨_, rfl, _⟩, same⟩
    cases same
    rfl
  | module parent other =>
    rcases Option.ite_none_right_eq_some.mp chosen with ⟨_, same⟩
    cases same
  | visibility owner visible => cases chosen
  | importing owner written target => cases chosen
  | glob owner target => cases chosen
  | crateAlias written target => cases chosen
  | implementation owner file self methods => cases chosen

theorem definition?_aliases (aliases : List Alias) :
    definition? (aliases.map Alias.declaration) module .type name =
      (aliases.find? fun synonym => synonym.module = module ∧ synonym.name.text = name).map
        fun synonym => .typeAlias synonym.body synonym.parameters.typeNames := by
  rw [definition?, List.findSome?_map, ← findSome?_ite]
  simp only [Function.comp_def, Alias.declaration, true_and]

end Declarations

namespace Compilation

variable {units : List SourceUnit} {externalCrates : List ExternalCrate}

theorem filter_isAlias_declarations :
    (ofUnits units externalCrates).declarations.filter Declaration.isAlias =
      (units.flatMap fun unit => Alias.ofItems unit.module unit.items).map Alias.declaration := by
  have ofUnit (unit : SourceUnit) : (declarationsOf unit).filter Declaration.isAlias =
      (Alias.ofItems unit.module unit.items).map Alias.declaration := by
    rw [declarationsOf, List.filter_append, Declaration.filter_isAlias_ofPath, List.nil_append,
      Declaration.filter_isAlias_ofItems]
  simp only [ofUnits, List.filter_flatMap, List.map_flatMap, ofUnit]

/-- What a name is declared as, if it is an alias, is what its first alias in the sources says. -/
theorem alias?_of_definition? {module : ModulePath} {name : String} {ty : Ty}
    {parameters : List Name}
    (declared : (ofUnits units externalCrates).declarations.definition? module .type name =
      some (.typeAlias ty parameters)) :
    ∃ synonym, (ofUnits units externalCrates).alias? module name = some synonym ∧
      synonym.body = ty ∧ synonym.parameters.typeNames = parameters := by
  have kept := Declarations.definition?_filter declared
  rw [filter_isAlias_declarations, Declarations.definition?_aliases] at kept
  rcases Option.map_eq_some_iff.mp kept with ⟨synonym, found, same⟩
  cases same
  exact ⟨synonym, found, rfl, rfl⟩

end Compilation

end Wireform.Names
