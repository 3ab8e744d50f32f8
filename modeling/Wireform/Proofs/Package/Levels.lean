import Mathlib.Data.List.Basic
import Mathlib.Logic.Relation
import Wireform.Proofs.Package.Declared

/-! # Levels of source files

The files that a crate's root leads to, level by level: the root, the files of the modules that it
declares, the files of the modules that those declare, and so on. Loading reads one level after the
other. -/

namespace Wireform.Package

open Files Names Syntax

variable {tree : FileTree} {root : FilePath} {source child start : SourceFile} {unit : SourceUnit}
  {files starts : List SourceFile} {sources : Sources} {error : SourceError} {levels : Nat}

namespace Sources

@[simp] theorem empty_append : empty.append sources = sources := rfl

@[simp] theorem append_empty : sources.append empty = sources := by
  simp [append, empty]

theorem append_assoc (first second third : Sources) :
    (first.append second).append third = first.append (second.append third) := by
  simp [append]

end Sources

/-! ## Reading files one after another -/

/-- What the files add to their crate, unless one of them cannot be read. -/
def gather (tree : FileTree) : List SourceFile → Except SourceError Sources
  | [] => .ok .empty
  | source :: rest => do
    let unit ← source.read tree
    return .append ⟨[unit], source.strays tree⟩ (← gather tree rest)

theorem gather_cons (reads : source.read tree = .ok unit) (rest : List SourceFile) :
    gather tree (source :: rest) =
      (gather tree rest).map (Sources.append ⟨[unit], source.strays tree⟩) := by
  rw [gather, reads]
  rfl

theorem gather_cons_error (fails : source.read tree = .error error) (rest : List SourceFile) :
    gather tree (source :: rest) = .error error := by
  rw [gather, fails]
  rfl

theorem gather_append (first second : List SourceFile) :
    gather tree (first ++ second) =
      (gather tree first).bind fun sources => (gather tree second).map sources.append := by
  induction first with
  | nil =>
    rw [List.nil_append, gather]
    cases gather tree second <;> rfl
  | cons source rest induction =>
    cases reads : source.read tree with
    | error error =>
      rw [List.cons_append, gather_cons_error reads, gather_cons_error reads]
      rfl
    | ok unit =>
      rw [List.cons_append, gather_cons reads, gather_cons reads, induction]
      cases gather tree rest with
      | error error => rfl
      | ok sources =>
        cases gather tree second with
        | error error => rfl
        | ok others => exact congrArg Except.ok (Sources.append_assoc _ _ _).symm

theorem gather_cons_eq_ok (gathers : gather tree (source :: files) = .ok sources) :
    ∃ unit others, source.read tree = .ok unit ∧ gather tree files = .ok others ∧
      sources = .append ⟨[unit], source.strays tree⟩ others := by
  cases reads : source.read tree with
  | error error =>
    rw [gather_cons_error reads] at gathers
    cases gathers
  | ok unit =>
    rw [gather_cons reads] at gathers
    cases rest : gather tree files with
    | error error =>
      rw [rest] at gathers
      cases gathers
    | ok others =>
      rw [rest] at gathers
      cases gathers
      exact ⟨unit, others, rfl, rfl, rfl⟩

/-- What is gathered are the units of the files, and the modules that they miss. -/
theorem gather_eq_ok (gathers : gather tree files = .ok sources) :
    files.map (·.read tree) = sources.units.map .ok ∧
      sources.missing = files.flatMap (·.strays tree) := by
  induction files generalizing sources with
  | nil =>
    cases gathers
    exact ⟨rfl, rfl⟩
  | cons source rest induction =>
    rcases gather_cons_eq_ok gathers with ⟨unit, others, reads, later, rfl⟩
    rcases induction later with ⟨units, missing⟩
    constructor
    · rw [List.map_cons, reads, units]
      rfl
    · rw [List.flatMap_cons, ← missing]
      rfl

/-- Whether the file of a source is text that parses. -/
def SourceFile.Readable (tree : FileTree) (source : SourceFile) : Prop :=
  ∃ unit, source.read tree = .ok unit

theorem exists_gather_iff :
    (∃ sources, gather tree files = .ok sources) ↔ ∀ source ∈ files, source.Readable tree := by
  induction files with
  | nil => exact ⟨fun _ => List.forall_mem_nil _, fun _ => ⟨.empty, rfl⟩⟩
  | cons source rest induction =>
    rw [List.forall_mem_cons, ← induction]
    cases reads : source.read tree with
    | error error => simp [gather_cons_error reads, SourceFile.Readable, reads]
    | ok unit =>
      rw [gather_cons reads]
      cases gather tree rest <;> simp [SourceFile.Readable, reads, Except.map]

/-! ## Levels -/

/-- The files that are this many levels below others. -/
def level (tree : FileTree) : Nat → List SourceFile → List SourceFile
  | 0, starts => starts
  | levels + 1, starts => level tree levels (starts.flatMap (·.children tree))

/-- The files of the first levels: those to start from and those below them. -/
def above (tree : FileTree) : Nat → List SourceFile → List SourceFile
  | 0, _ => []
  | levels + 1, starts => starts ++ above tree levels (starts.flatMap (·.children tree))

@[simp] theorem level_nil : level tree levels [] = [] := by
  induction levels with
  | zero => rfl
  | succ levels induction => exact induction

@[simp] theorem above_nil : above tree levels [] = [] := by
  induction levels with
  | zero => rfl
  | succ levels induction => exact induction

theorem level_add (first second : Nat) (starts : List SourceFile) :
    level tree (first + second) starts = level tree second (level tree first starts) := by
  induction first generalizing starts with
  | zero => rw [Nat.zero_add, level]
  | succ first induction => rw [Nat.succ_add, level, induction, level]

theorem level_succ (levels : Nat) (starts : List SourceFile) :
    level tree (levels + 1) starts = (level tree levels starts).flatMap (·.children tree) := by
  rw [level_add]
  rfl

theorem level_eq_nil_of_le {more : Nat} (ends : level tree levels starts = [])
    (more_le : levels ≤ more) : level tree more starts = [] := by
  obtain ⟨rest, rfl⟩ := Nat.exists_eq_add_of_le more_le
  rw [level_add, ends, level_nil]

theorem mem_above :
    source ∈ above tree levels starts ↔ ∃ n < levels, source ∈ level tree n starts := by
  induction levels generalizing starts with
  | zero => simp [above]
  | succ levels induction =>
    rw [above, List.mem_append, induction]
    constructor
    · rintro (among | ⟨n, less, among⟩)
      · exact ⟨0, Nat.zero_lt_succ _, among⟩
      · exact ⟨n + 1, Nat.succ_lt_succ less, among⟩
    · rintro ⟨n, less, among⟩
      cases n with
      | zero => exact .inl among
      | succ n => exact .inr ⟨n, Nat.lt_of_succ_lt_succ less, among⟩

theorem le_length_above (goesOn : level tree levels starts ≠ []) :
    levels ≤ (above tree levels starts).length := by
  induction levels generalizing starts with
  | zero => exact Nat.zero_le _
  | succ levels induction =>
    have started : 0 < starts.length := by
      apply List.length_pos_of_ne_nil
      rintro rfl
      exact goesOn level_nil
    rw [above, List.length_append, Nat.add_comm]
    exact Nat.add_le_add started (induction goesOn)

/-- Every file is there because it starts or because a file declares it. -/
theorem above_eq (ends : level tree levels starts = []) :
    above tree levels starts = starts ++ (above tree levels starts).flatMap (·.children tree) := by
  induction levels generalizing starts with
  | zero =>
    cases ends
    rfl
  | succ levels induction => rw [above, List.flatMap_append, ← induction ends]

theorem above_singleton (ends : level tree levels [start] = []) :
    above tree levels [start] = start :: (above tree levels [start]).flatMap (·.children tree) :=
  above_eq ends

/-! ## Files that files lead to -/

/-- Whether one file declares the module that is in the other one. -/
def Declares (tree : FileTree) (source child : SourceFile) : Prop := child ∈ source.children tree

/-- Whether a crate's root leads to a file. -/
def Reached (tree : FileTree) (root : FilePath) : SourceFile → Prop :=
  Relation.ReflTransGen (Declares tree) (.ofRoot root)

theorem level_eq_flatMap (n : Nat) (starts : List SourceFile) :
    level tree n starts = starts.flatMap fun start => level tree n [start] := by
  induction n with
  | zero => simp [level]
  | succ n induction =>
    rw [level_succ, induction, List.flatMap_assoc]
    simp only [level_succ]

theorem mem_level_add {m : Nat} :
    source ∈ level tree (m + n) [start] ↔
      ∃ between ∈ level tree m [start], source ∈ level tree n [between] := by
  rw [level_add, level_eq_flatMap, List.mem_flatMap]

theorem mem_level_succ :
    child ∈ level tree (n + 1) [start] ↔
      ∃ source ∈ level tree n [start], Declares tree source child := by
  rw [level_succ, List.mem_flatMap]
  rfl

theorem exists_mem_level_iff :
    (∃ n, source ∈ level tree n [start]) ↔ Relation.ReflTransGen (Declares tree) start source := by
  constructor
  · rintro ⟨n, among⟩
    induction n generalizing source with
    | zero =>
      cases List.mem_singleton.mp among
      exact .refl
    | succ n induction =>
      rcases mem_level_succ.mp among with ⟨between, among, declares⟩
      exact (induction among).tail declares
  · intro reached
    induction reached with
    | refl => exact ⟨0, List.mem_singleton_self _⟩
    | tail _ declares induction =>
      rcases induction with ⟨n, among⟩
      exact ⟨n + 1, mem_level_succ.mpr ⟨_, among, declares⟩⟩

theorem exists_mem_level_succ_iff :
    (∃ n, source ∈ level tree (n + 1) [start]) ↔
      Relation.TransGen (Declares tree) start source := by
  simp only [mem_level_succ, Relation.TransGen.tail'_iff, ← exists_mem_level_iff]
  constructor
  · rintro ⟨n, between, among, declares⟩
    exact ⟨between, ⟨n, among⟩, declares⟩
  · rintro ⟨between, ⟨n, among⟩, declares⟩
    exact ⟨n, between, among, declares⟩

theorem reflTransGen_of_mem_above (among : source ∈ above tree levels [start]) :
    Relation.ReflTransGen (Declares tree) start source := by
  rcases mem_above.mp among with ⟨n, -, among⟩
  exact exists_mem_level_iff.mp ⟨n, among⟩

/-! ## Loading -/

namespace Sources

theorem readAll_eq (files : List SourceFile) :
    readAll tree files =
      (gather tree files).map fun sources => (sources, files.flatMap (·.children tree)) := by
  induction files with
  | nil => rfl
  | cons source rest induction =>
    rw [readAll]
    cases reads : source.read tree with
    | error error =>
      rw [gather_cons_error reads]
      rfl
    | ok unit =>
      rw [gather_cons reads, induction]
      cases gather tree rest with
      | error error => rfl
      | ok sources =>
        rw [List.flatMap_cons, ← SourceFile.found_eq reads, ← SourceFile.missing_eq reads]
        rfl

theorem readLevels_eq (levels : Nat) (starts : List SourceFile) :
    readLevels tree root levels starts =
      (gather tree (above tree levels starts)).bind fun sources =>
        if level tree levels starts = [] then .ok sources else .error (.endless root) := by
  induction levels generalizing starts with
  | zero => cases starts <;> rfl
  | succ levels induction =>
    cases starts with
    | nil =>
      rw [level_nil, above_nil, readLevels]
      rfl
    | cons first rest =>
      rw [readLevels, readAll_eq, above, gather_append, level]
      cases gather tree (first :: rest) with
      | error error => rfl
      | ok sources =>
        change Except.bind (readLevels _ _ _ _) _ = _
        rw [induction]
        cases gather tree (above tree levels ((first :: rest).flatMap (·.children tree))) with
        | error error => rfl
        | ok others =>
          by_cases ends : level tree levels ((first :: rest).flatMap (·.children tree)) = []
          · simp only [Except.bind, Except.map, if_pos ends]
            rfl
          · simp only [Except.bind, Except.map, if_neg ends]

theorem readLevels_eq_ok_iff {levels : Nat} {starts : List SourceFile} :
    readLevels tree root levels starts = .ok sources ↔
      gather tree (above tree levels starts) = .ok sources ∧ level tree levels starts = [] := by
  rw [readLevels_eq]
  cases gather tree (above tree levels starts) with
  | error error => simp [Except.bind]
  | ok sources => by_cases ends : level tree levels starts = [] <;> simp [Except.bind, ends]

/-- The files of a crate, one after another. -/
theorem exists_files_of_readLevels {levels : Nat}
    (reads : readLevels tree root levels [source] = .ok sources) :
    ∃ files, files = source :: files.flatMap (·.children tree) ∧
      files.map (·.read tree) = sources.units.map .ok ∧
      sources.missing = files.flatMap (·.strays tree) ∧
      ∀ file ∈ files, Relation.ReflTransGen (Declares tree) source file := by
  rcases readLevels_eq_ok_iff.mp reads with ⟨gathers, ends⟩
  rcases gather_eq_ok gathers with ⟨units, missing⟩
  exact ⟨above tree levels [source], above_singleton ends, units, missing,
    fun _ => reflTransGen_of_mem_above⟩

end Sources

end Wireform.Package
