import Wireform.Generation.Candidate

/-! # Source order

A struct is found by its place: the number of its unit, and then the numbers of the items on the way
to it, each among those around it. Places that come first in the order of words come first in the
sources. The candidates are what is found at all places where there is one, in that order. -/

namespace Wireform.Generation

open Wireform.Names Wireform.Syntax

/-- The values are those found at these places, which are in order, and at no other place. -/
structure FoundInOrder {α : Type} (found? : List Nat → Option α) (places : List (List Nat))
    (values : List α) : Prop where
  values_eq : places.map found? = values.map some
  sorted : places.Pairwise (List.Lex (· < ·))
  complete : ∀ place, (found? place).isSome = true → place ∈ places

/-- What is found behind the first number of a place, which chooses one of the values. -/
def foundAmong? {α β : Type} (found? : α → List Nat → Option β) (values : List α) :
    List Nat → Option β
  | [] => none
  | index :: place => values[index]?.bind (found? · place)

/-- The place after a value has been put in front. -/
def shifted : List Nat → List Nat
  | [] => []
  | index :: place => (index + 1) :: place

theorem lex_shifted {first second : List Nat} (before : List.Lex (· < ·) first second) :
    List.Lex (· < ·) (shifted first) (shifted second) := by
  cases before with
  | nil => exact .nil
  | cons rest => exact .cons rest
  | rel less => exact .rel (Nat.succ_lt_succ less)

section Among
variable {α β : Type} {found? : α → List Nat → Option β} {read : α → List β}

theorem foundAmong?_shifted (head : α) (tail : List α) (place : List Nat) :
    foundAmong? found? (head :: tail) (shifted place) = foundAmong? found? tail place := by
  cases place <;> rfl

theorem foundInOrder_cons {head : α} {tail : List α} {own others : List (List Nat)}
    (inHead : FoundInOrder (found? head) own (read head))
    (inTail : FoundInOrder (foundAmong? found? tail) others (tail.flatMap read)) :
    FoundInOrder (foundAmong? found? (head :: tail)) (own.map (0 :: ·) ++ others.map shifted)
      ((head :: tail).flatMap read) where
  values_eq := by
    rw [List.map_append, List.flatMap_cons, List.map_append, ← inHead.values_eq,
      ← inTail.values_eq, List.map_map, List.map_map]
    congr 1
    apply List.map_congr_left
    intro place _
    exact foundAmong?_shifted head tail place
  sorted := by
    rw [List.pairwise_append]
    refine ⟨?_, ?_, ?_⟩
    · exact List.pairwise_map.mpr (inHead.sorted.imp .cons)
    · exact List.pairwise_map.mpr (inTail.sorted.imp lex_shifted)
    · intro first inOwn second inOthers
      rcases List.mem_map.mp inOwn with ⟨place, _, rfl⟩
      rcases List.mem_map.mp inOthers with ⟨other, among, rfl⟩
      cases other with
      | nil =>
        -- Nothing is found at the empty place.
        have found := List.mem_map_of_mem (f := foundAmong? found? tail) among
        rw [inTail.values_eq] at found
        rcases List.mem_map.mp found with ⟨value, _, none⟩
        cases none
      | cons index rest => exact .rel (Nat.succ_pos index)
  complete := by
    intro place found
    rw [List.mem_append]
    cases place with
    | nil => cases found
    | cons index rest =>
      cases index with
      | zero => exact .inl (List.mem_map_of_mem (inHead.complete rest found))
      | succ index =>
        exact .inr (List.mem_map.mpr ⟨index :: rest, inTail.complete (index :: rest) found, rfl⟩)

/-- What is found in order in each value is found in order in all of them. -/
theorem exists_foundInOrder {values : List α}
    (each : ∀ value ∈ values, ∃ places, FoundInOrder (found? value) places (read value)) :
    ∃ places, FoundInOrder (foundAmong? found? values) places (values.flatMap read) := by
  induction values with
  | nil =>
    refine ⟨[], rfl, .nil, ?_⟩
    intro place found
    cases place <;> cases found
  | cons head tail induction =>
    rcases List.forall_mem_cons.mp each with ⟨⟨own, inHead⟩, others⟩
    rcases induction others with ⟨places, inTail⟩
    exact ⟨_, foundInOrder_cons inHead inTail⟩

end Among

namespace Candidate

def inItem? (file : String) : ModulePath → Item → List Nat → Option Candidate
  | module, .struct declaration, [] =>
    if isAttributed declaration then some ⟨declaration, module, file⟩ else none
  | module, .module _ _ name (some items), index :: place =>
    items[index]?.bind fun item => inItem? file (module ++ [name.text]) item place
  | _, _, _ => none

def inUnit? (unit : SourceUnit) : List Nat → Option Candidate :=
  foundAmong? (inItem? unit.path unit.module) unit.items

def at? (units : List SourceUnit) : List Nat → Option Candidate := foundAmong? inUnit? units

theorem ofItems_eq_flatMap (file : String) (module : ModulePath) (items : List Item) :
    ofItems file module items = items.flatMap (ofItem file module) := by
  induction items with
  | nil => rfl
  | cons head tail induction => rw [ofItems, induction, List.flatMap_cons]

/-- Nothing is found in an item that neither is a struct nor has items inside. -/
theorem foundInOrder_nil {found? : List Nat → Option Candidate}
    (nothing : ∀ place, found? place = none) : FoundInOrder found? [] [] := by
  refine ⟨rfl, .nil, ?_⟩
  intro place found
  rw [nothing] at found
  cases found

mutual
theorem exists_foundInOrder_ofItem (file : String) : ∀ (item : Item) (module : ModulePath),
    ∃ places, FoundInOrder (inItem? file module item) places (ofItem file module item)
  | .struct declaration, module => by
    cases attributed : isAttributed declaration with
    | true =>
      refine ⟨[[]], by simp [inItem?, ofItem, attributed], List.pairwise_singleton _ _, ?_⟩
      intro place found
      cases place with
      | nil => exact List.mem_cons_self
      | cons index rest => cases found
    | false =>
      rw [ofItem, attributed, if_neg Bool.false_ne_true]
      refine ⟨[], foundInOrder_nil fun place => ?_⟩
      cases place with
      | nil => simp [inItem?, attributed]
      | cons index rest => rfl
  | .module attributes visible name (some items), module => by
    have inside : inItem? file module (.module attributes visible name (some items)) =
        foundAmong? (inItem? file (module ++ [name.text])) items := by
      funext place
      cases place <;> rfl
    rw [inside, ofItem, ofItems_eq_flatMap]
    exact exists_foundInOrder (exists_foundInOrder_ofItems file items (module ++ [name.text]))
  | .module _ _ _ none, _ => ⟨[], foundInOrder_nil fun place => by cases place <;> rfl⟩
  | .declaration _ _, _ => ⟨[], foundInOrder_nil fun place => by cases place <;> rfl⟩
  | .typeAlias _ _ _, _ => ⟨[], foundInOrder_nil fun place => by cases place <;> rfl⟩
  | .constant _ _ _, _ => ⟨[], foundInOrder_nil fun place => by cases place <;> rfl⟩
  | .use _ _, _ => ⟨[], foundInOrder_nil fun place => by cases place <;> rfl⟩
  | .externalCrate _ _, _ => ⟨[], foundInOrder_nil fun place => by cases place <;> rfl⟩
  | .implementation _ _ _, _ => ⟨[], foundInOrder_nil fun place => by cases place <;> rfl⟩
  | .other, _ => ⟨[], foundInOrder_nil fun place => by cases place <;> rfl⟩

theorem exists_foundInOrder_ofItems (file : String) : ∀ (items : List Item) (module : ModulePath),
    ∀ item ∈ items,
      ∃ places, FoundInOrder (inItem? file module item) places (ofItem file module item)
  | [], _ => List.forall_mem_nil _
  | head :: tail, module => List.forall_mem_cons.mpr
    ⟨exists_foundInOrder_ofItem file head module, exists_foundInOrder_ofItems file tail module⟩
end

/-- The candidates are what is found in the sources, in source order. -/
theorem exists_foundInOrder_select (units : List SourceUnit) (externalCrates : List ExternalCrate) :
    ∃ places, FoundInOrder (at? units) places (select (.ofUnits units externalCrates)) := by
  apply exists_foundInOrder
  intro unit _
  rw [ofItems_eq_flatMap]
  exact exists_foundInOrder (exists_foundInOrder_ofItems unit.path unit.items unit.module)

end Candidate

end Wireform.Generation
