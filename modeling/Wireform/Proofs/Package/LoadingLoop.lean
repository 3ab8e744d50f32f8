import Wireform.Proofs.Package.Recurrence

/-! # The loop that loads a crate

Loading as a loop over a queue: each turn reads the file that waits longest, and lets the files of
the modules that it declares wait behind all others. -/

namespace Wireform.Package

open Files Names Syntax Sources

/-- The files that wait to be read, the next one first, and what has been read. -/
structure Loading where
  pending : List SourceFile
  loaded : Sources

namespace Loading

variable {tree : FileTree} {root : FilePath} {source : SourceFile} {unit : SourceUnit}
  {files rest : List SourceFile} {loaded : Sources} {loading : Loading} {m n : Nat}

def start (root : FilePath) : Loading := ⟨[.ofRoot root], .empty⟩

/-- One turn of the loop. -/
def next (tree : FileTree) : Loading → Except SourceError Loading
  | ⟨[], loaded⟩ => .ok ⟨[], loaded⟩
  | ⟨source :: rest, loaded⟩ => do
    let unit ← source.read tree
    return ⟨rest ++ source.found tree unit, loaded.append ⟨[unit], source.missing tree unit⟩⟩

/-- The state after this many turns, unless a file could not be read. -/
def after (tree : FileTree) : Nat → Loading → Except SourceError Loading
  | 0, loading => .ok loading
  | turns + 1, loading => do after tree turns (← loading.next tree)

theorem after_add (m n : Nat) (loading : Loading) :
    after tree (m + n) loading = (after tree m loading).bind (after tree n) := by
  induction m generalizing loading with
  | zero =>
    rw [Nat.zero_add]
    rfl
  | succ m induction =>
    rw [Nat.succ_add, after, after]
    cases loading.next tree with
    | error error => rfl
    | ok next => exact induction next

theorem after_cons (reads : source.read tree = .ok unit) :
    after tree (n + 1) ⟨source :: rest, loaded⟩ =
      after tree n
        ⟨rest ++ source.children tree, loaded.append ⟨[unit], source.strays tree⟩⟩ := by
  rw [after, next, reads, ← SourceFile.found_eq reads, ← SourceFile.missing_eq reads]
  rfl

theorem after_cons_error {error : SourceError} (fails : source.read tree = .error error) :
    after tree (n + 1) ⟨source :: rest, loaded⟩ = .error error := by
  rw [after, next, fails]
  rfl

theorem after_length (files rest : List SourceFile) (loaded : Sources) :
    after tree files.length ⟨files ++ rest, loaded⟩ =
      (gather tree files).map fun sources =>
        ⟨rest ++ files.flatMap (·.children tree), loaded.append sources⟩ := by
  induction files generalizing rest loaded with
  | nil => simp [after, gather, Except.map]
  | cons source files induction =>
    rw [List.length_cons, List.cons_append]
    cases reads : source.read tree with
    | error error =>
      rw [after_cons_error reads, gather_cons_error reads]
      rfl
    | ok unit =>
      rw [after_cons reads, gather_cons reads, List.append_assoc, induction]
      cases gather tree files with
      | error error => rfl
      | ok sources =>
        simp [Except.map, Sources.append_assoc]

theorem after_levels (levels : Nat) (files : List SourceFile) (loaded : Sources) :
    after tree (above tree levels files).length ⟨files, loaded⟩ =
      (gather tree (above tree levels files)).map fun sources =>
        ⟨level tree levels files, loaded.append sources⟩ := by
  induction levels generalizing files loaded with
  | zero => simp [above, level, after, gather, Except.map]
  | succ levels induction =>
    have first : after tree files.length ⟨files, loaded⟩ =
        (gather tree files).map fun sources =>
          ⟨files.flatMap (·.children tree), loaded.append sources⟩ := by
      simpa using after_length files [] loaded
    rw [above, List.length_append, after_add, first, gather_append]
    cases gather tree files with
    | error error => rfl
    | ok sources =>
      rw [level]
      change after tree _ ⟨files.flatMap (·.children tree), loaded.append sources⟩ = _
      rw [induction]
      cases gather tree (above tree levels (files.flatMap (·.children tree))) with
      | error error => rfl
      | ok others => simp [Except.bind, Except.map, Sources.append_assoc]

/-! ## Turns that change nothing -/

/-- Whether the loop is over: no file waits, or one could not be read. -/
def Settled (outcome : Except SourceError Loading) : Prop :=
  ∀ loading, outcome = .ok loading → loading.pending = []

theorem settled_map_mk (result : Except SourceError Sources) : Settled (result.map (mk [])) := by
  intro loading ends
  cases result with
  | error error => cases ends
  | ok sources =>
    cases ends
    rfl

theorem after_of_pending_eq_nil (finished : loading.pending = []) :
    after tree n loading = .ok loading := by
  rcases loading with ⟨pending, loaded⟩
  cases finished
  induction n with
  | zero => rfl
  | succ n induction => exact induction

theorem Settled.after_add (settled : Settled (after tree m loading)) :
    after tree (m + n) loading = after tree m loading := by
  rw [Loading.after_add]
  cases ends : after tree m loading with
  | error error => rfl
  | ok last => exact after_of_pending_eq_nil (settled last ends)

/-- The loop is over with one outcome only. -/
theorem Settled.unique (settled : Settled (after tree m loading))
    (otherwise : Settled (after tree n loading)) :
    after tree m loading = after tree n loading := by
  rw [← settled.after_add (n := n), Nat.add_comm, otherwise.after_add]

theorem map_mk_injective : Function.Injective
    fun result : Except SourceError Sources => result.map (mk []) := by
  intro first second same
  cases first <;> cases second <;> cases same <;> rfl

/-! ## What loading comes to -/

theorem exists_of_gather_eq_error {error : SourceError} (fails : gather tree files = .error error) :
    ∃ source ∈ files, source.read tree = .error error := by
  induction files with
  | nil => cases fails
  | cons source rest induction =>
    cases reads : source.read tree with
    | error fault =>
      rw [gather_cons_error reads] at fails
      cases fails
      exact ⟨source, List.mem_cons_self, reads⟩
    | ok unit =>
      rw [gather_cons reads] at fails
      cases others : gather tree rest with
      | error fault =>
        rw [others] at fails
        cases fails
        rcases induction others with ⟨source, among, reads⟩
        exact ⟨source, List.mem_cons_of_mem _ among, reads⟩
      | ok sources =>
        rw [others] at fails
        cases fails

theorem read_ne_endless : source.read tree ≠ .error (.endless root) := by
  intro fails
  rw [SourceFile.read] at fails
  cases holds : tree.readText? source.file with
  | none =>
    rw [holds] at fails
    cases fails
  | some text =>
    simp only [holds] at fails
    cases parses : SourceUnit.parse? source.file.text source.module.text text with
    | none =>
      rw [parses] at fails
      cases fails
    | some unit =>
      rw [parses] at fails
      cases fails

theorem gather_ne_endless : gather tree files ≠ .error (.endless root) := by
  intro fails
  rcases exists_of_gather_eq_error fails with ⟨source, -, reads⟩
  exact read_ne_endless reads

/-- Where reading the levels comes to an end, so does the loop. -/
theorem after_of_readLevels {levels : Nat} {result : Except SourceError Sources}
    (reads : readLevels tree root levels [.ofRoot root] = result)
    (ends : result ≠ .error (.endless root)) :
    after tree (above tree levels [.ofRoot root]).length (start root) = result.map (mk []) := by
  rw [readLevels_eq] at reads
  rw [start, after_levels]
  cases gathers : gather tree (above tree levels [.ofRoot root]) with
  | error error =>
    rw [gathers] at reads
    cases reads
    rfl
  | ok sources =>
    rw [gathers] at reads
    by_cases last : level tree levels [.ofRoot root] = []
    · rw [Except.bind, if_pos last] at reads
      cases reads
      rw [last]
      rfl
    · rw [Except.bind, if_neg last] at reads
      exact absurd reads.symm ends

theorem readLevels_eq_endless_iff {levels : Nat} :
    readLevels tree root levels files = .error (.endless root) ↔
      (∀ source ∈ above tree levels files, source.Readable tree) ∧
        level tree levels files ≠ [] := by
  rw [readLevels_eq, ← exists_gather_iff]
  cases gathers : gather tree (above tree levels files) with
  | error error =>
    have other : error ≠ .endless root := by
      rintro rfl
      exact gather_ne_endless gathers
    simp [Except.bind, other]
  | ok sources => by_cases last : level tree levels files = [] <;> simp [Except.bind, last]

theorem load_eq_endless_iff :
    load tree root = .error (.endless root) ↔
      (∀ source, Reached tree root source → source.Readable tree) ∧
        ∃ source, Reached tree root source ∧ Recurs tree source := by
  rw [load, readLevels_eq_endless_iff, forall_readable_iff, level_levelLimit_ne_nil_iff]

theorem exists_load_iff :
    (∃ sources, load tree root = .ok sources) ↔
      (∀ source, Reached tree root source → source.Readable tree) ∧
        ¬∃ source, Reached tree root source ∧ Recurs tree source := by
  simp only [load, readLevels_eq_ok_iff, exists_and_right]
  rw [exists_gather_iff, forall_readable_iff, ← level_levelLimit_ne_nil_iff, Classical.not_not]

/-- Below a file that comes again the loop never ends, as long as it can read all files. -/
theorem not_settled_of_recurs
    (readable : ∀ source, Reached tree root source → source.Readable tree)
    (reached : Reached tree root source) (recurs : Recurs tree source) (turns : Nat) :
    ¬Settled (after tree turns (start root)) := by
  intro settled
  have goesOn := reached.level_ne_nil recurs turns
  have long : turns ≤ (above tree turns [.ofRoot root]).length := le_length_above goesOn
  have all : ∀ source ∈ above tree turns [.ofRoot root], source.Readable tree := by
    intro source among
    rcases mem_above.mp among with ⟨n, -, among⟩
    exact readable source (exists_mem_level_iff.mp ⟨n, among⟩)
  rcases exists_gather_iff.mpr all with ⟨sources, gathers⟩
  rcases Nat.exists_eq_add_of_le long with ⟨more, length_eq⟩
  have later : after tree (turns + more) (start root) =
      .ok ⟨level tree turns [.ofRoot root], sources⟩ := by
    rw [← length_eq, start, after_levels, gathers]
    rfl
  exact goesOn (settled _ (settled.after_add.symm.trans later))

/-- The loop goes on after any number of turns, and none of them fails. -/
def Endless (tree : FileTree) (root : FilePath) : Prop :=
  ∀ turns, ¬Settled (after tree turns (start root))

theorem endless_of_load (endless : load tree root = .error (.endless root)) :
    Endless tree root := by
  rcases load_eq_endless_iff.mp endless with ⟨readable, source, reached, recurs⟩
  exact not_settled_of_recurs readable reached recurs

theorem load_eq_iff {result : Except SourceError Sources}
    (ends : result ≠ .error (.endless root)) :
    load tree root = result ↔ ∃ turns, after tree turns (start root) = result.map (mk []) := by
  constructor
  · intro loads
    exact ⟨_, after_of_readLevels loads ends⟩
  · rintro ⟨turns, finished⟩
    have settled : Settled (after tree turns (start root)) := finished ▸ settled_map_mk result
    have ended : load tree root ≠ .error (.endless root) := fun endless =>
      endless_of_load endless turns settled
    have loaded : after tree _ (start root) = (load tree root).map (mk []) :=
      after_of_readLevels rfl ended
    apply map_mk_injective
    change (load tree root).map (mk []) = result.map (mk [])
    rw [← finished, ← loaded]
    exact Settled.unique (loaded ▸ settled_map_mk _) settled

theorem load_eq_endless_iff_endless :
    load tree root = .error (.endless root) ↔ Endless tree root := by
  constructor
  · exact endless_of_load
  · intro endless
    by_contra ended
    rcases (load_eq_iff ended).mp rfl with ⟨turns, finished⟩
    exact endless turns (finished ▸ settled_map_mk _)

/-! ## Crates whose files can be read -/

/-- Whether an entry holds text that parses, if it is a file. -/
def parses : Entry → Bool
  | .file (.text text) => (parseFile? text).isSome
  | .file (.raw _) => false
  | .directory => true

def AllParse (tree : FileTree) : Prop := ∀ entry ∈ tree.entries, parses entry.2 = true

instance : Decidable (AllParse tree) :=
  inferInstanceAs (Decidable (∀ entry ∈ tree.entries, parses entry.2 = true))

theorem readable_iff (allParse : AllParse tree) :
    source.Readable tree ↔ ∃ content, tree.get? source.file = .ok (.file content) := by
  constructor
  · rintro ⟨unit, reads⟩
    rcases SourceFile.read_eq_ok_iff.mp reads with ⟨text, items, holds, -⟩
    exact ⟨.text text, FileTree.readText?_eq_some_iff.mp holds⟩
  · rintro ⟨content, found⟩
    rcases FileTree.exists_mem_entries_of_get? found with ⟨place, among⟩
    have parsed := allParse _ among
    cases content with
    | raw bytes => cases parsed
    | text text =>
      rcases Option.isSome_iff_exists.mp parsed with ⟨items, parsed⟩
      exact ⟨_, SourceFile.read_eq_ok_iff.mpr
        ⟨text, items, FileTree.readText?_eq_some_iff.mpr found, parsed, rfl⟩⟩

/-- Loading gives what the loop gives, and has no answer when the loop goes on without end. It does
so just when all files that the root leads to can be read and one of them is found below itself.
Where all files of the tree hold text that parses, those that cannot be read are no files:
directories, or a root that is not there. -/
theorem loading_ends (tree : FileTree) (root : FilePath) :
    (∀ result, result ≠ .error (.endless root) →
      (load tree root = result ↔
        ∃ turns, after tree turns (start root) = result.map (mk []))) ∧
    (load tree root = .error (.endless root) ↔ Endless tree root) ∧
    (Endless tree root ↔
      (∀ source, Reached tree root source → source.Readable tree) ∧
        ∃ source, Reached tree root source ∧ Recurs tree source) ∧
    ((∃ turns sources, after tree turns (start root) = .ok ⟨[], sources⟩) ↔
      (∀ source, Reached tree root source → source.Readable tree) ∧
        ¬∃ source, Reached tree root source ∧ Recurs tree source) ∧
    (AllParse tree → ∀ source : SourceFile,
      source.Readable tree ↔ ∃ content, tree.get? source.file = .ok (.file content)) := by
  refine ⟨fun result ends => load_eq_iff ends, load_eq_endless_iff_endless, ?_, ?_, ?_⟩
  · rw [← load_eq_endless_iff_endless, load_eq_endless_iff]
  · rw [← exists_load_iff, exists_comm]
    apply exists_congr
    intro sources
    have ends : (Except.ok sources : Except SourceError Sources) ≠ .error (.endless root) := nofun
    exact (load_eq_iff ends).symm
  · exact fun allParse source => readable_iff allParse

/-- A root that is the file of a module that it declares. -/
def ring : FileTree :=
  { entries := [(["src"], .directory),
    (["src", "lib.rs"], .file (.text "#[path = \"lib.rs\"] mod a;"))] }

/-- A directory where a file is looked for. -/
def directoryAsFile : FileTree :=
  { entries := [(["src"], .directory),
    (["src", "lib.rs"], .file (.text "#[path = \"shapes\"] mod shapes; mod b;")),
    (["src", "shapes"], .directory),
    (["src", "b.rs"], .file (.text ""))] }

/-- Even if all files parse, the loop can go on without end, or fail before all is read. -/
theorem loading_ends_not :
    (AllParse ring ∧ Endless ring ⟨["src", "lib.rs"]⟩) ∧
      AllParse directoryAsFile ∧
      after directoryAsFile 2 (start ⟨["src", "lib.rs"]⟩) =
        .error (.unreadable ⟨["src", "shapes"]⟩) := by
  have facts :
      (AllParse ring ∧ AllParse directoryAsFile) ∧
      (SourceFile.ofRoot ⟨["src", "lib.rs"]⟩).children ring =
        [⟨⟨["src", "lib.rs"]⟩, ["a"], ⟨["src"]⟩⟩] ∧
      (SourceFile.ofRoot ⟨["src", "lib.rs"]⟩).children directoryAsFile =
        [⟨⟨["src", "shapes"]⟩, ["shapes"], ⟨["src"]⟩⟩,
          ⟨⟨["src", "b.rs"]⟩, ["b"], ⟨["src", "b"]⟩⟩] ∧
      directoryAsFile.readText? ⟨["src", "shapes"]⟩ = none := by
    decide +kernel
  rcases facts with ⟨⟨ringParses, treeParses⟩, ringChildren, treeChildren, noText⟩
  refine ⟨⟨ringParses, ?_⟩, treeParses, ?_⟩
  · have itself : ∀ child, Declares ring (.ofRoot ⟨["src", "lib.rs"]⟩) child ↔
        child = ⟨⟨["src", "lib.rs"]⟩, ["a"], ⟨["src"]⟩⟩ := by
      intro child
      rw [Declares, ringChildren, List.mem_singleton]
    have declares := (itself _).mpr rfl
    intro turns
    apply not_settled_of_recurs _ .refl ⟨_, .single declares, rfl, rfl⟩ turns
    intro source reached
    have alike := reached.alike fun child declares => by
      rw [(itself child).mp declares]
      exact ⟨rfl, rfl⟩
    exact alike.symm.readable (readable_of_declares declares)
  · have declares : Declares directoryAsFile (.ofRoot ⟨["src", "lib.rs"]⟩)
        ⟨⟨["src", "shapes"]⟩, ["shapes"], ⟨["src"]⟩⟩ := by
      rw [Declares, treeChildren]
      exact List.mem_cons_self
    rcases readable_of_declares declares with ⟨unit, reads⟩
    rw [start, after_cons reads, treeChildren]
    apply after_cons_error
    rw [SourceFile.read, noText]

end Loading

end Wireform.Package
