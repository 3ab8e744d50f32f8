import Mathlib.Data.List.Shortlex
import Wireform.Proofs.Generation.SourceOrder
import Wireform.Proofs.Package.Levels

/-! # Breadth-first order

A file of a crate is found by its place: the numbers of the declarations on the way from the root to
it, each among those of its file. The files that are loaded are what is found at all places where
there is a file. Shorter places come first, and places of one length are in the order of words. -/

namespace Wireform.Package

open Files Generation

variable {tree : FileTree} {source : SourceFile} {levels : Nat}

/-- The values are those found at these places, the shorter ones first, and at no other place. -/
structure FoundByDepth {α : Type} (found? : List Nat → Option α) (places : List (List Nat))
    (values : List α) : Prop where
  values_eq : places.map found? = values.map some
  sorted : places.Pairwise (List.Shortlex (· < ·))
  complete : ∀ place, (found? place).isSome = true → place ∈ places

namespace SourceFile

/-- The file at a place below another one. -/
def below? (tree : FileTree) (source : SourceFile) : List Nat → Option SourceFile
  | [] => some source
  | index :: place =>
    (source.declared tree)[index]?.bind fun declared =>
      (source.locate tree declared).bind fun child => child.below? tree place

/-- The file at a place that is this many declarations below another one. -/
def inLevel? (tree : FileTree) (n : Nat) (source : SourceFile) (place : List Nat) :
    Option SourceFile :=
  if place.length = n then source.below? tree place else none

theorem inLevel?_succ (n : Nat) (source : SourceFile) :
    source.inLevel? tree (n + 1) =
      foundAmong? (fun declared place =>
        (source.locate tree declared).bind fun child => child.inLevel? tree n place)
        (source.declared tree) := by
  funext place
  cases place with
  | nil => rfl
  | cons index rest =>
    simp only [inLevel?, List.length_cons, Nat.add_right_cancel_iff, foundAmong?, below?]
    by_cases inside : rest.length = n
    · simp only [inside, if_true]
    · simp only [inside, if_false, Option.bind_fun_none]

theorem children_eq_flatMap (source : SourceFile) :
    source.children tree =
      (source.declared tree).flatMap fun declared => (source.locate tree declared).toList :=
  List.filterMap_eq_flatMap_toList _ _

end SourceFile

open SourceFile

/-- The files of one level are found in the order of words. -/
theorem exists_foundInOrder_level (tree : FileTree) (n : Nat) :
    ∀ source, ∃ places, FoundInOrder (source.inLevel? tree n) places (level tree n [source]) := by
  induction n with
  | zero =>
    intro source
    refine ⟨[[]], rfl, List.pairwise_singleton _ _, ?_⟩
    intro place found
    cases place with
    | nil => exact List.mem_cons_self
    | cons index rest => cases found
  | succ n induction =>
    intro source
    have inFile : level tree (n + 1) [source] = (source.declared tree).flatMap fun declared =>
        (source.locate tree declared).toList.flatMap fun child => level tree n [child] := by
      rw [level, List.flatMap_singleton, level_eq_flatMap, children_eq_flatMap, List.flatMap_assoc]
    rw [inFile, inLevel?_succ]
    apply exists_foundInOrder
    intro declared _
    cases source.locate tree declared with
    | none =>
      refine ⟨[], rfl, .nil, ?_⟩
      intro place found
      cases found
    | some child =>
      rcases induction child with ⟨places, found⟩
      exact ⟨places, by simpa using found⟩

theorem above_eq_flatMap (starts : List SourceFile) :
    above tree levels starts = (List.range levels).flatMap fun n => level tree n starts := by
  induction levels generalizing starts with
  | zero => rfl
  | succ levels induction =>
    rw [above, induction, List.range_succ_eq_map, List.flatMap_cons, List.flatMap_map]
    rfl

/-- All places in a level have one length, so that levels come one after the other. -/
theorem exists_foundByDepth (ends : level tree levels [source] = []) :
    ∃ places, FoundByDepth (source.below? tree) places (above tree levels [source]) := by
  choose places found using fun n => exists_foundInOrder_level tree n source
  have isSome {n : Nat} {place : List Nat} (among : place ∈ places n) :
      (source.inLevel? tree n place).isSome = true := by
    have inMap := List.mem_map_of_mem (f := source.inLevel? tree n) among
    rw [(found n).values_eq] at inMap
    rcases List.mem_map.mp inMap with ⟨file, _, same⟩
    rw [← same]
    rfl
  have length_eq {n : Nat} {place : List Nat} (among : place ∈ places n) : place.length = n := by
    have some := isSome among
    unfold inLevel? at some
    split at some
    · assumption
    · cases some
  refine ⟨(List.range levels).flatMap places, ?_, ?_, ?_⟩
  · rw [above_eq_flatMap, List.map_flatMap, List.map_flatMap]
    congr 1
    funext n
    rw [← (found n).values_eq]
    apply List.map_congr_left
    intro place among
    rw [inLevel?, if_pos (length_eq among)]
  · rw [List.pairwise_flatMap]
    constructor
    · intro n _
      refine (found n).sorted.imp_of_mem fun first second before => ?_
      exact .of_lex ((length_eq first).trans (length_eq second).symm) before
    · refine List.pairwise_lt_range.imp fun less first inFirst second inSecond => ?_
      apply List.Shortlex.of_length_lt
      rwa [length_eq inFirst, length_eq inSecond]
  · intro place atPlace
    have among : place ∈ places place.length := by
      apply (found place.length).complete
      rwa [inLevel?, if_pos rfl]
    refine List.mem_flatMap.mpr ⟨place.length, List.mem_range.mpr ?_, among⟩
    -- Below the last level there are no files.
    by_contra beyond
    have empty := (found place.length).values_eq
    rw [level_eq_nil_of_le ends (Nat.le_of_not_lt beyond), List.map_nil, List.map_eq_nil_iff]
      at empty
    rw [empty] at among
    cases among

end Wireform.Package
