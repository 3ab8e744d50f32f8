import Mathlib.Data.Finset.Card
import Mathlib.Data.Finset.Range
import Wireform.Proofs.Files.Counting
import Wireform.Proofs.Files.Tree
import Wireform.Proofs.Package.Levels

/-! # Files below themselves

A file that is found below itself, with its modules in the same directory again, declares the same
modules again, so that there is no end to them. A crate without such a file has fewer levels than
`levelLimit`. -/

namespace Wireform.Package

open Files Names Syntax Sources

variable {tree : FileTree} {root : FilePath} {source child first second third start : SourceFile}
  {unit : SourceUnit} {n : Nat}

/-! ## Declaring files -/

theorem mem_children_iff :
    child ∈ source.children tree ↔
      ∃ declared ∈ source.declared tree, ∃ place, source.place? tree declared = some place ∧
        child = ⟨place, source.moduleOf declared, declared.moduleDirectory place⟩ := by
  simp only [SourceFile.children, List.mem_filterMap, SourceFile.locate, Option.map_eq_some_iff,
    eq_comm (a := child)]

theorem pathExists_of_declares (declares : Declares tree source child) :
    tree.pathExists child.file = true := by
  rcases mem_children_iff.mp declares with ⟨declared, -, place, found, rfl⟩
  exact List.find?_some found

theorem readable_of_declares (declares : Declares tree source child) : source.Readable tree := by
  rcases mem_children_iff.mp declares with ⟨declared, among, -⟩
  rcases SourceFile.exists_of_mem_declared among with ⟨unit, reads, -⟩
  exact ⟨unit, reads⟩

theorem pathExists_of_readable (readable : source.Readable tree) :
    tree.pathExists source.file = true := by
  rcases readable with ⟨unit, reads⟩
  rcases SourceFile.read_eq_ok_iff.mp reads with ⟨text, items, holds, -⟩
  exact FileTree.pathExists_of_readText? holds

/-! ## Files that are read alike -/

/-- Whether both are the same file, with the modules that it declares in the same directory. -/
def Alike (first second : SourceFile) : Prop :=
  first.file = second.file ∧ first.childDirectory = second.childDirectory

theorem Alike.refl : Alike source source := ⟨rfl, rfl⟩

theorem Alike.symm (alike : Alike first second) : Alike second first :=
  ⟨alike.1.symm, alike.2.symm⟩

theorem Alike.trans (alike : Alike first second) (next : Alike second third) : Alike first third :=
  ⟨alike.1.trans next.1, alike.2.trans next.2⟩

theorem Alike.read (alike : Alike first second) (reads : first.read tree = .ok unit) :
    second.read tree = .ok { unit with module := .ofText second.module.text } := by
  rcases SourceFile.read_eq_ok_iff.mp reads with ⟨text, items, holds, parses, rfl⟩
  rw [alike.1] at holds
  exact SourceFile.read_eq_ok_iff.mpr ⟨text, items, holds, parses, by rw [alike.1]⟩

theorem Alike.readable (alike : Alike first second) (readable : first.Readable tree) :
    second.Readable tree := by
  rcases readable with ⟨unit, reads⟩
  exact ⟨_, alike.read reads⟩

theorem Alike.declared (alike : Alike first second) :
    first.declared tree = second.declared tree := by
  by_cases readable : first.Readable tree
  · rcases readable with ⟨unit, reads⟩
    rw [SourceFile.declared_eq reads, SourceFile.declared_eq (alike.read reads)]
  · have unreadable : ¬second.Readable tree := fun other => readable (alike.symm.readable other)
    rw [SourceFile.declared, SourceFile.declared]
    cases reads : first.read tree with
    | ok unit => exact absurd ⟨unit, reads⟩ readable
    | error error =>
      cases reads : second.read tree with
      | ok unit => exact absurd ⟨unit, reads⟩ unreadable
      | error error => rfl

theorem Alike.place? (alike : Alike first second) (declared : DeclaredModule) :
    first.place? tree declared = second.place? tree declared := by
  simp only [SourceFile.place?, SourceFile.searched, DeclaredModule.placesFrom, alike.1, alike.2]

theorem Alike.children (alike : Alike first second) (declares : Declares tree first child) :
    ∃ other, Declares tree second other ∧ Alike child other := by
  rcases mem_children_iff.mp declares with ⟨declared, among, place, found, rfl⟩
  rw [alike.declared] at among
  rw [alike.place?] at found
  exact ⟨_, mem_children_iff.mpr ⟨declared, among, place, found, rfl⟩, rfl, rfl⟩

theorem Alike.level (alike : Alike first second) (among : source ∈ level tree n [first]) :
    ∃ other ∈ level tree n [second], Alike source other := by
  induction n generalizing source with
  | zero =>
    cases List.mem_singleton.mp among
    exact ⟨second, List.mem_singleton_self _, alike⟩
  | succ n induction =>
    rcases mem_level_succ.mp among with ⟨between, among, declares⟩
    rcases induction among with ⟨other, among, alike⟩
    rcases alike.children declares with ⟨child, declares, alike⟩
    exact ⟨child, mem_level_succ.mpr ⟨other, among, declares⟩, alike⟩

/-- If a root declares itself only, it leads to nothing else. -/
theorem Reached.alike (reached : Reached tree root source)
    (itself : ∀ child, Declares tree (.ofRoot root) child → Alike child (.ofRoot root)) :
    Alike source (.ofRoot root) := by
  induction reached with
  | refl => exact .refl
  | tail _ declares alike =>
    rcases alike.children declares with ⟨other, declares, next⟩
    exact next.trans (itself other declares)

/-! ## Counting files -/

/-- Whether the modules that a file declares are beside it or in a directory of its name. -/
def Placed (source : SourceFile) : Prop :=
  source.childDirectory = source.file.directory ∨
    source.childDirectory = source.file.withoutExtension

theorem placed_of_declares (declares : Declares tree source child) : Placed child := by
  rcases mem_children_iff.mp declares with ⟨declared, -, place, -, rfl⟩
  rw [Placed, DeclaredModule.moduleDirectory]
  split
  · exact .inl rfl
  · exact .inr rfl

theorem Reached.placed (reached : Reached tree root source) : Placed source := by
  cases reached with
  | refl => exact .inl rfl
  | tail _ declares => exact placed_of_declares declares

/-- The number of a file, with the directory of its modules. -/
def mark (source : SourceFile) : Nat :=
  2 * source.file.number + if source.childDirectory = source.file.directory then 0 else 1

theorem alike_of_mark_eq (placed : Placed first) (otherPlaced : Placed second)
    (same : mark first = mark second) : Alike first second := by
  rw [mark, mark] at same
  have file : first.file = second.file := by
    apply FilePath.number_injective
    split at same <;> split at same <;> omega
  rw [file] at same
  refine ⟨file, ?_⟩
  rw [Placed, file] at placed
  rw [Placed] at otherPlaced
  by_cases beside : first.childDirectory = second.file.directory
  · rw [if_pos beside] at same
    by_cases otherBeside : second.childDirectory = second.file.directory
    · rw [beside, otherBeside]
    · rw [if_neg otherBeside] at same
      omega
  · rw [if_neg beside] at same
    by_cases otherBeside : second.childDirectory = second.file.directory
    · rw [if_pos otherBeside] at same
      omega
    · rw [placed.resolve_left beside, otherPlaced.resolve_left otherBeside]

theorem mark_lt (found : tree.pathExists source.file = true) : mark source < levelLimit := by
  have below := number_lt_pathLimit (FileTree.isUsablePath_of_pathExists found)
  rw [mark, levelLimit]
  split <;> omega

theorem levelLimit_pos : 0 < levelLimit := by
  have below : FilePath.empty.number < pathLimit := number_lt_pathLimit (by decide)
  rw [levelLimit]
  omega

/-! ## Files that come again -/

theorem exists_chain (among : source ∈ level tree n [start]) :
    ∃ chain : Nat → SourceFile, chain 0 = start ∧ chain n = source ∧
      ∀ i < n, Declares tree (chain i) (chain (i + 1)) := by
  induction n generalizing source with
  | zero =>
    cases List.mem_singleton.mp among
    exact ⟨fun _ => start, rfl, rfl, fun _ less => absurd less (Nat.not_lt_zero _)⟩
  | succ n induction =>
    rcases mem_level_succ.mp among with ⟨between, among, declares⟩
    rcases induction among with ⟨chain, starts, ends, follows⟩
    refine ⟨fun i => if i ≤ n then chain i else source, ?_, ?_, ?_⟩
    · simpa using starts
    · simp
    · intro i less
      dsimp only
      by_cases last : i = n
      · subst last
        rw [if_pos (Nat.le_refl i), if_neg (by omega), ends]
        exact declares
      · rw [if_pos (by omega), if_pos (by omega)]
        exact follows i (by omega)

theorem mem_level_of_chain {chain : Nat → SourceFile}
    (follows : ∀ i < n, Declares tree (chain i) (chain (i + 1))) {i k : Nat} (within : i + k ≤ n) :
    chain (i + k) ∈ level tree k [chain i] := by
  induction k with
  | zero => exact List.mem_singleton_self _
  | succ k induction =>
    exact mem_level_succ.mpr ⟨chain (i + k), induction (by omega), follows (i + k) (by omega)⟩

theorem exists_lt_map_eq (marks : Nat → Nat) {limit : Nat} (below : ∀ i ≤ limit, marks i < limit) :
    ∃ i j, i < j ∧ j ≤ limit ∧ marks i = marks j := by
  have maps : Set.MapsTo marks (Finset.range (limit + 1)) (Finset.range limit) := by
    intro i within
    rw [Finset.coe_range, Set.mem_Iio] at within ⊢
    exact below i (by omega)
  have crowded : (Finset.range limit).card < (Finset.range (limit + 1)).card := by
    rw [Finset.card_range, Finset.card_range]
    exact Nat.lt_succ_self limit
  rcases Finset.exists_ne_map_eq_of_card_lt_of_maps_to crowded maps with
    ⟨i, iWithin, j, jWithin, different, same⟩
  rw [Finset.mem_range] at iWithin jWithin
  rcases Nat.lt_or_gt_of_ne different with less | less
  · exact ⟨i, j, less, by omega, same⟩
  · exact ⟨j, i, less, by omega, same.symm⟩

/-- On a way this long, some file is found twice. -/
theorem exists_alike_between (among : source ∈ level tree n [.ofRoot root])
    (long : levelLimit ≤ n) :
    ∃ i k first second, i + (k + 1) ≤ n ∧ first ∈ level tree i [.ofRoot root] ∧
      second ∈ level tree (k + 1) [first] ∧ source ∈ level tree (n - (i + (k + 1))) [second] ∧
      Alike first second := by
  rcases exists_chain among with ⟨chain, starts, ends, follows⟩
  have reached : ∀ i ≤ n, chain i ∈ level tree i [.ofRoot root] := by
    intro i within
    have onWay := mem_level_of_chain (i := 0) (k := i) follows (by omega)
    rwa [Nat.zero_add, starts] at onWay
  have placed : ∀ i ≤ n, Placed (chain i) := fun i within =>
    Reached.placed (exists_mem_level_iff.mp ⟨i, reached i within⟩)
  have found : ∀ i ≤ n, tree.pathExists (chain i).file = true := by
    intro i within
    cases i with
    | zero =>
      have notOnly := Nat.lt_of_lt_of_le levelLimit_pos long
      exact pathExists_of_readable (readable_of_declares (follows 0 notOnly))
    | succ i => exact pathExists_of_declares (follows i within)
  have below : ∀ i ≤ levelLimit, mark (chain i) < levelLimit :=
    fun i within => mark_lt (found i (Nat.le_trans within long))
  rcases exists_lt_map_eq (fun i => mark (chain i)) below with ⟨i, j, less, within, same⟩
  replace within := Nat.le_trans within long
  rcases Nat.exists_eq_add_of_lt less with ⟨k, rfl⟩
  have rest : i + k + 1 + (n - (i + (k + 1))) = n := by omega
  refine ⟨i, k, chain i, chain (i + k + 1), within, reached i (by omega), ?_, ?_, ?_⟩
  · exact mem_level_of_chain (i := i) (k := k + 1) follows within
  · have last := mem_level_of_chain (i := i + k + 1) (k := n - (i + (k + 1))) follows (by omega)
    rwa [rest, ends] at last
  · exact alike_of_mark_eq (placed i (by omega)) (placed (i + k + 1) within) same

/-- Whatever is found on a long way is also found on a short one. -/
theorem exists_alike_above (among : source ∈ level tree n [.ofRoot root]) :
    ∃ other ∈ above tree levelLimit [.ofRoot root], Alike source other := by
  induction n using Nat.strongRecOn generalizing source with
  | ind n induction =>
    by_cases short : n < levelLimit
    · exact ⟨source, mem_above.mpr ⟨n, short, among⟩, .refl⟩
    · rcases exists_alike_between among (Nat.le_of_not_lt short) with
        ⟨i, k, first, second, within, reached, -, among, alike⟩
      rcases alike.symm.level among with ⟨other, among, alike⟩
      have sooner := mem_level_add.mpr ⟨first, reached, among⟩
      rcases induction _ (by omega) sooner with ⟨last, among, next⟩
      exact ⟨last, among, alike.trans next⟩

/-- Whether a file is found below itself. -/
def Recurs (tree : FileTree) (source : SourceFile) : Prop :=
  ∃ below, Relation.TransGen (Declares tree) source below ∧ Alike source below

/-- Below a file that is found below itself, there is no end. -/
theorem Recurs.level_ne_nil (recurs : Recurs tree source) (n : Nat) :
    level tree n [source] ≠ [] := by
  rcases recurs with ⟨below, leads, alike⟩
  rcases exists_mem_level_succ_iff.mpr leads with ⟨k, among⟩
  induction n using Nat.strongRecOn with
  | ind n induction =>
    intro empty
    by_cases near : n ≤ k + 1
    · rw [level_eq_nil_of_le empty near] at among
      cases among
    · rcases List.exists_mem_of_ne_nil _ (induction (n - (k + 1)) (by omega)) with ⟨last, among'⟩
      rcases alike.level among' with ⟨other, among', -⟩
      have deep := mem_level_add.mpr ⟨below, among, among'⟩
      rw [Nat.add_sub_cancel' (by omega), empty] at deep
      cases deep

theorem Reached.level_ne_nil (reached : Reached tree root source) (recurs : Recurs tree source)
    (n : Nat) : level tree n [.ofRoot root] ≠ [] := by
  intro empty
  rcases exists_mem_level_iff.mpr reached with ⟨m, among⟩
  rcases List.exists_mem_of_ne_nil _ (recurs.level_ne_nil n) with ⟨last, below⟩
  have deep := mem_level_add.mpr ⟨source, among, below⟩
  rw [level_eq_nil_of_le empty (Nat.le_add_left n m)] at deep
  cases deep

/-- There is an end within the limit or not at all. -/
theorem level_levelLimit_ne_nil_iff :
    level tree levelLimit [.ofRoot root] ≠ [] ↔
      ∃ source, Reached tree root source ∧ Recurs tree source := by
  constructor
  · intro goesOn
    rcases List.exists_mem_of_ne_nil _ goesOn with ⟨last, among⟩
    rcases exists_alike_between among (Nat.le_refl _) with
      ⟨i, k, first, second, -, reached, below, -, alike⟩
    exact ⟨first, exists_mem_level_iff.mp ⟨i, reached⟩, second,
      exists_mem_level_succ_iff.mp ⟨k, below⟩, alike⟩
  · rintro ⟨source, reached, recurs⟩
    exact reached.level_ne_nil recurs levelLimit

theorem forall_readable_iff :
    (∀ source ∈ above tree levelLimit [.ofRoot root], source.Readable tree) ↔
      ∀ source, Reached tree root source → source.Readable tree := by
  constructor
  · intro readable source reached
    rcases exists_mem_level_iff.mpr reached with ⟨n, among⟩
    rcases exists_alike_above among with ⟨other, among, alike⟩
    exact alike.symm.readable (readable other among)
  · intro readable source among
    rcases mem_above.mp among with ⟨n, -, among⟩
    exact readable source (exists_mem_level_iff.mp ⟨n, among⟩)

end Wireform.Package
