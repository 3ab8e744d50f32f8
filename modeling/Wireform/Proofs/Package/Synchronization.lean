import Mathlib.Data.List.Nodup
import Wireform.Package.Output
import Wireform.Proofs.Files.Directory

/-! # Synchronization

What becomes of a tree when the files in one of its directories are brought up to date, and what a
report on that says in advance. The tree stays what it is but for the listed files and the fragments
that are left over. -/

namespace Wireform.Package

open Files Generation

/-- Whether a name is one piece of a path and stands for an entry. -/
def isPlainName (name : String) : Bool := namesEntry name && !name.toList.contains '/'

theorem isPlainName_iff {name : String} :
    isPlainName name = true ↔ namesEntry name = true ∧ '/' ∉ name.toList := by
  simp [isPlainName]

theorem namesEntry_of_isFragmentName {name : String} (isFragment : isFragmentName name = true) :
    namesEntry name = true := by
  rw [namesEntry_iff]
  refine ⟨?_, ?_, ?_⟩ <;> rintro rfl <;> revert isFragment <;> decide

namespace Output

variable {tree written after : FileTree} {directory : FilePath} {place other : Place}
  {fragment : Fragment} {fragments : List Fragment} {changes : OutputChanges}

def fileOf (directory : FilePath) (fragment : Fragment) : FilePath :=
  directory.join (.ofText fragment.fileName)

/-- Whether a fragment's file holds its code. -/
def isCurrent (tree : FileTree) (directory : FilePath) (fragment : Fragment) : Bool :=
  tree.readText? (fileOf directory fragment) = some fragment.code

/-- The changes when these files are brought up to date. -/
def writtenChanges (tree : FileTree) (directory : FilePath) (fragments : List Fragment) :
    OutputChanges where
  written := (fragments.filter fun fragment => !isCurrent tree directory fragment).map
    (fileOf directory)
  unchanged := (fragments.filter (isCurrent tree directory)).map (fileOf directory)
  removed := []

/-- Whether a name in the directory is a fragment that is left over. -/
def isStale (fragments : List Fragment) (name : String) : Bool :=
  isFragmentName name && !(fragments.map Fragment.fileName).contains name

theorem isStale_iff {name : String} :
    isStale fragments name = true ↔
      isFragmentName name = true ∧ name ∉ fragments.map Fragment.fileName := by
  simp [isStale]

/-! ## Writing -/

theorem fileOf_eq (plain : isPlainName fragment.fileName = true) :
    fileOf directory fragment = directory.joinName fragment.fileName :=
  FilePath.join_ofText (isPlainName_iff.mp plain).2

theorem isCurrent_iff (opens : tree.Opens directory place)
    (plain : isPlainName fragment.fileName = true) :
    isCurrent tree directory fragment = true ↔
      FileTree.takesName directory fragment.fileName = true ∧
        tree.entry? (place ++ [fragment.fileName]) = some (.file (.text fragment.code)) := by
  rw [isCurrent, decide_eq_true_iff, fileOf_eq plain]
  exact opens.readText?_joinName (isPlainName_iff.mp plain).1

theorem writeAll_report : writeAll .report directory tree fragments =
    (.ok (writtenChanges tree directory fragments), tree) := by
  induction fragments with
  | nil => rfl
  | cons fragment rest induction =>
    rw [writeAll]
    by_cases current : isCurrent tree directory fragment = true
    · have same := of_decide_eq_true current
      rw [fileOf] at same
      simp only [if_pos same, induction]
      simp [writtenChanges, current, Except.map, fileOf]
    · have differs := mt decide_eq_true current
      rw [fileOf] at differs
      simp only [if_neg differs]
      simp [induction, writtenChanges, current, Except.map, fileOf]

/-- What one fragment changes when it is brought up to date: nothing, or its file. -/
theorem writeAll_cons_eq_ok
    (done : writeAll .apply directory tree (fragment :: fragments) = (.ok changes, after)) :
    ∃ written more, writeAll .apply directory written fragments = (.ok more, after) ∧
      (isCurrent tree directory fragment = true ∧ written = tree ∧
        changes = { more with unchanged := fileOf directory fragment :: more.unchanged } ∨
      isCurrent tree directory fragment = false ∧
        tree.writeText? (fileOf directory fragment) fragment.code = some written ∧
        changes = { more with written := fileOf directory fragment :: more.written }) := by
  rw [writeAll] at done
  by_cases current : isCurrent tree directory fragment = true
  · have same := of_decide_eq_true current
    rw [fileOf] at same
    simp only [if_pos same] at done
    cases rest : writeAll .apply directory tree fragments with
    | mk result last =>
      rw [rest] at done
      cases result with
      | error error => cases done
      | ok more =>
        cases done
        exact ⟨tree, more, rest, .inl ⟨current, rfl, rfl⟩⟩
  · have differs := mt decide_eq_true current
    rw [fileOf] at differs
    simp only [if_neg differs, if_true] at done
    cases wrote : tree.writeText? (directory.join (.ofText fragment.fileName)) fragment.code with
    | none =>
      rw [wrote] at done
      cases done
    | some written =>
      simp only [wrote] at done
      cases rest : writeAll .apply directory written fragments with
      | mk result last =>
        rw [rest] at done
        cases result with
        | error error => cases done
        | ok more =>
          cases done
          exact ⟨written, more, rest, .inr ⟨Bool.eq_false_iff.mpr current, wrote, rfl⟩⟩

/-- What is true once a fragment is in its file. -/
structure Stores (tree written : FileTree) (directory : FilePath) (place : Place)
    (fragment : Fragment) : Prop where
  takes : FileTree.takesName directory fragment.fileName = true
  stored : written.entry? (place ++ [fragment.fileName]) = some (.file (.text fragment.code))
  other : ∀ other ≠ place ++ [fragment.fileName], written.entry? other = tree.entry? other
  names : ∀ wanted : String → Bool, wanted fragment.fileName = false →
    (written.names place).filter wanted = (tree.names place).filter wanted
  keeps : tree.Keeps written
  rooted : tree.Rooted → written.Rooted

theorem stores_of_isCurrent (opens : tree.Opens directory place)
    (plain : isPlainName fragment.fileName = true)
    (current : isCurrent tree directory fragment = true) :
    Stores tree tree directory place fragment where
  takes := ((isCurrent_iff opens plain).mp current).1
  stored := ((isCurrent_iff opens plain).mp current).2
  other _ _ := rfl
  names _ _ := rfl
  keeps := .refl
  rooted := id

theorem stores_of_writeText? (opens : tree.Opens directory place)
    (plain : isPlainName fragment.fileName = true)
    (wrote : tree.writeText? (fileOf directory fragment) fragment.code = some written) :
    Stores tree written directory place fragment := by
  rw [fileOf_eq plain] at wrote
  obtain ⟨takes, notDirectory, rfl⟩ :=
    opens.writeText?_joinName (isPlainName_iff.mp plain).1 wrote
  have keeps : tree.Keeps
      (tree.insert (place ++ [fragment.fileName]) (.file (.text fragment.code))) :=
    FileTree.keeps_insert_file (by simp) notDirectory
  refine ⟨takes, ?_, ?_, ?_, keeps, fun rooted => rooted.insert opens.isDirectory keeps⟩
  · rw [FileTree.entry?_insert (by simp), if_pos rfl]
  · intro other different
    rw [FileTree.entry?_insert (by simp), if_neg different]
  · intro wanted unwanted
    exact FileTree.filter_names_insert unwanted

theorem Stores.isCurrent_eq (stores : Stores tree written directory place fragment)
    (opens : tree.Opens directory place) {later : Fragment}
    (plain : isPlainName later.fileName = true) (different : later.fileName ≠ fragment.fileName) :
    isCurrent written directory later = isCurrent tree directory later := by
  have opened := opens.mono stores.keeps.here fun _ => stores.keeps.directory
  rw [Bool.eq_iff_iff, isCurrent_iff opens plain, isCurrent_iff opened plain, stores.other]
  simpa using different

/-- What is true once fragments are in their files, the last one of each name. -/
structure StoresAll (tree after : FileTree) (directory : FilePath) (place : Place)
    (fragments : List Fragment) : Prop where
  stored : ∀ fragment ∈ fragments, FileTree.takesName directory fragment.fileName = true ∧
    ∃ last ∈ fragments, last.fileName = fragment.fileName ∧
      after.entry? (place ++ [fragment.fileName]) = some (.file (.text last.code))
  other : ∀ other, (∀ fragment ∈ fragments, other ≠ place ++ [fragment.fileName]) →
    after.entry? other = tree.entry? other
  names : ∀ wanted : String → Bool, (∀ fragment ∈ fragments, wanted fragment.fileName = false) →
    (after.names place).filter wanted = (tree.names place).filter wanted
  keeps : tree.Keeps after
  rooted : tree.Rooted → after.Rooted

theorem StoresAll.cons (first : Stores tree written directory place fragment)
    (rest : StoresAll written after directory place fragments) :
    StoresAll tree after directory place (fragment :: fragments) where
  stored := by
    intro stored among
    rcases List.mem_cons.mp among with rfl | among
    · refine ⟨first.takes, ?_⟩
      by_cases again : ∃ later ∈ fragments, later.fileName = stored.fileName
      · obtain ⟨later, among, same⟩ := again
        obtain ⟨-, last, lastAmong, lastSame, found⟩ := rest.stored later among
        rw [same] at lastSame found
        exact ⟨last, List.mem_cons_of_mem _ lastAmong, lastSame, found⟩
      · refine ⟨stored, List.mem_cons_self, rfl, ?_⟩
        rw [rest.other, first.stored]
        intro later among same
        exact again ⟨later, among, by simpa using same.symm⟩
    · obtain ⟨takes, last, lastAmong, found⟩ := rest.stored stored among
      exact ⟨takes, last, List.mem_cons_of_mem _ lastAmong, found⟩
  other other outside := by
    rw [rest.other other fun later among => outside later (List.mem_cons_of_mem _ among)]
    exact first.other other (outside fragment List.mem_cons_self)
  names wanted unwanted := by
    rw [rest.names wanted fun later among => unwanted later (List.mem_cons_of_mem _ among)]
    exact first.names wanted (unwanted fragment List.mem_cons_self)
  keeps := first.keeps.trans rest.keeps
  rooted rooted := rest.rooted (first.rooted rooted)

theorem storesAll_writeAll (opens : tree.Opens directory place)
    (plain : ∀ fragment ∈ fragments, isPlainName fragment.fileName = true)
    (done : writeAll .apply directory tree fragments = (.ok changes, after)) :
    StoresAll tree after directory place fragments := by
  induction fragments generalizing tree changes with
  | nil =>
    cases done
    exact ⟨by simp, fun _ _ => rfl, fun _ _ => rfl, .refl, id⟩
  | cons fragment rest induction =>
    have plainRest := fun later among => plain later (List.mem_cons_of_mem _ among)
    have plainFirst := plain fragment List.mem_cons_self
    obtain ⟨written, more, doneRest, cases⟩ := writeAll_cons_eq_ok done
    have stores : Stores tree written directory place fragment := by
      rcases cases with ⟨current, rfl, -⟩ | ⟨-, wrote, -⟩
      · exact stores_of_isCurrent opens plainFirst current
      · exact stores_of_writeText? opens plainFirst wrote
    exact .cons stores
      (induction (opens.mono stores.keeps.here fun _ => stores.keeps.directory) plainRest doneRest)

theorem changes_of_writeAll (opens : tree.Opens directory place)
    (plain : ∀ fragment ∈ fragments, isPlainName fragment.fileName = true)
    (distinct : (fragments.map Fragment.fileName).Nodup)
    (done : writeAll .apply directory tree fragments = (.ok changes, after)) :
    changes = writtenChanges tree directory fragments := by
  induction fragments generalizing tree changes with
  | nil =>
    cases done
    rfl
  | cons fragment rest induction =>
    have plainRest := fun later among => plain later (List.mem_cons_of_mem _ among)
    have plainFirst := plain fragment List.mem_cons_self
    rw [List.map_cons, List.nodup_cons] at distinct
    obtain ⟨written, more, doneRest, cases⟩ := writeAll_cons_eq_ok done
    rcases cases with ⟨current, rfl, rfl⟩ | ⟨outdated, wrote, rfl⟩
    · rw [induction opens plainRest distinct.2 doneRest]
      simp [writtenChanges, current]
    · have stores := stores_of_writeText? opens plainFirst wrote
      have same : ∀ later ∈ rest,
          isCurrent written directory later = isCurrent tree directory later := by
        intro later among
        apply stores.isCurrent_eq opens (plainRest later among)
        intro same
        exact distinct.1 (same ▸ List.mem_map_of_mem among)
      have opened := opens.mono stores.keeps.here fun _ => stores.keeps.directory
      rw [induction opened plainRest distinct.2 doneRest]
      have unchanged : rest.filter (isCurrent written directory) =
          rest.filter (isCurrent tree directory) := List.filter_congr same
      have changed : (rest.filter fun later => !isCurrent written directory later) =
          rest.filter fun later => !isCurrent tree directory later :=
        List.filter_congr fun later among => by rw [same later among]
      simp [writtenChanges, outdated, unchanged, changed]

theorem keeps_writeText? {path : FilePath} {text : String}
    (wrote : tree.writeText? path text = some written) : tree.Keeps written := by
  rw [FileTree.writeText?] at wrote
  split at wrote
  · rename_i place led
    split at wrote
    · cases wrote
    · rename_i notDirectory
      cases wrote
      apply FileTree.keeps_insert_file
      · rintro rfl
        exact notDirectory rfl
      · exact Bool.eq_false_iff.mpr notDirectory
  · cases wrote

/-- Writing takes nothing away, even if it fails. -/
theorem keeps_writeAll : tree.Keeps (writeAll .apply directory tree fragments).2 := by
  induction fragments generalizing tree with
  | nil => exact .refl
  | cons fragment rest induction =>
    rw [writeAll]
    by_cases same : tree.readText? (directory.join (.ofText fragment.fileName)) = some fragment.code
    · simp only [if_pos same]
      exact induction
    · simp only [if_neg same, if_true]
      cases wrote : tree.writeText? (directory.join (.ofText fragment.fileName)) fragment.code with
      | none => exact .refl
      | some written => exact (keeps_writeText? wrote).trans induction

/-! ## Sweeping -/

theorem staleFiles_eq (opens : tree.Opens directory place) (named : directory ≠ .empty) :
    staleFiles tree directory (fragments.map Fragment.fileName) =
      .ok ((Text.sorted ((tree.names place).filter (isStale fragments))).map
        directory.joinName) := by
  rw [staleFiles, opens.list_eq named]
  rfl

theorem staleFiles_empty {expected : List String} : staleFiles tree .empty expected = .ok [] := by
  rw [staleFiles, FileTree.list_empty]

/-- The files to be removed, by their names. In the directory of the empty path there are none. -/
theorem staleFiles_eq_ok (opens : tree.Opens directory place) {stale : List FilePath}
    (found : staleFiles tree directory (fragments.map Fragment.fileName) = .ok stale) :
    ∃ names : List String, stale = names.map directory.joinName ∧
      (∀ name ∈ names, isStale fragments name = true ∧ directory ≠ .empty) ∧
      (directory ≠ .empty →
        ∀ name ∈ tree.names place, isStale fragments name = true → name ∈ names) := by
  by_cases named : directory = .empty
  · rw [named, staleFiles_empty] at found
    cases found
    exact ⟨[], rfl, List.forall_mem_nil _, fun notEmpty => absurd named notEmpty⟩
  · rw [staleFiles_eq opens named] at found
    cases found
    refine ⟨_, rfl, ?_, ?_⟩
    · intro name among
      rw [Text.sorted, List.mem_mergeSort, List.mem_filter] at among
      exact ⟨among.2, named⟩
    · intro _ name among stale
      rw [Text.sorted, List.mem_mergeSort, List.mem_filter]
      exact ⟨among, stale⟩

theorem StoresAll.staleFiles_eq (stores : StoresAll tree after directory place fragments)
    (opens : tree.Opens directory place) :
    staleFiles after directory (fragments.map Fragment.fileName) =
      staleFiles tree directory (fragments.map Fragment.fileName) := by
  by_cases named : directory = .empty
  · rw [named, staleFiles_empty, staleFiles_empty]
  · have opened := opens.mono stores.keeps.here fun _ => stores.keeps.directory
    rw [Output.staleFiles_eq opened named, Output.staleFiles_eq opens named, stores.names]
    intro fragment among
    have listed : fragment.fileName ∈ fragments.map Fragment.fileName := List.mem_map_of_mem among
    exact Bool.eq_false_iff.mpr fun stale => (isStale_iff.mp stale).2 listed

theorem removeAll_eq_error {files : List FilePath} {error : OutputError}
    (failed : removeAll tree files = (.error error, after)) : ∃ file, error = .notRemoved file := by
  induction files generalizing tree with
  | nil => cases failed
  | cons file rest induction =>
    rw [removeAll] at failed
    cases removed : tree.removeFile? file with
    | none =>
      rw [removed] at failed
      cases failed
      exact ⟨file, rfl⟩
    | some erased =>
      rw [removed] at failed
      exact induction failed

/-- What is true once files of a directory are gone. -/
structure Sweeps (tree after : FileTree) (place : Place) (names : List String) : Prop where
  here : after.here = tree.here
  gone : ∀ name ∈ names, after.entry? (place ++ [name]) = none
  other : ∀ other, (∀ name ∈ names, other ≠ place ++ [name]) →
    after.entry? other = tree.entry? other
  directory : ∀ place, tree.isDirectory place = true → after.isDirectory place = true
  rooted : tree.Rooted → after.Rooted

theorem Sweeps.mem_names {names : List String} {name : String}
    (sweeps : Sweeps tree after place names) :
    name ∈ after.names place ↔ name ∈ tree.names place ∧ name ∉ names := by
  rw [FileTree.mem_names, FileTree.mem_names]
  by_cases among : name ∈ names
  · rw [sweeps.gone name among]
    simp [among]
  · have same : after.entry? (place ++ [name]) = tree.entry? (place ++ [name]) := by
      apply sweeps.other
      intro other otherAmong same
      obtain rfl : name = other := by simpa using same
      exact among otherAmong
    rw [same]
    simp [among]

theorem sweeps_removeAll {names : List String} (opens : tree.Opens directory place)
    (isName : ∀ name ∈ names, namesEntry name = true)
    (done : removeAll tree (names.map directory.joinName) = (.ok (), after)) :
    Sweeps tree after place names := by
  induction names generalizing tree with
  | nil =>
    cases done
    exact ⟨rfl, by simp, fun _ _ => rfl, fun _ => id, id⟩
  | cons name rest induction =>
    rw [List.map_cons, removeAll] at done
    cases removed : tree.removeFile? (directory.joinName name) with
    | none =>
      rw [removed] at done
      cases done
    | some erased =>
      simp only [removed] at done
      obtain ⟨⟨content, found⟩, rfl⟩ :=
        opens.removeFile?_joinName (isName name List.mem_cons_self) removed
      have kept (other : Place) (here : tree.isDirectory other = true) :
          (tree.erase (place ++ [name])).isDirectory other = true :=
        FileTree.isDirectory_erase found here
      have sweeps := induction (opens.mono FileTree.here_erase kept)
        (fun later among => isName later (List.mem_cons_of_mem _ among)) done
      refine ⟨sweeps.here, ?_, ?_, fun other here => sweeps.directory other (kept other here),
        fun rooted => sweeps.rooted (rooted.erase found)⟩
      · intro later among
        by_cases again : later ∈ rest
        · exact sweeps.gone later again
        · obtain rfl : later = name := (List.mem_cons.mp among).resolve_right again
          rw [sweeps.other, FileTree.entry?_erase (by simp), if_pos rfl]
          intro other among same
          obtain rfl : later = other := by simpa using same
          exact again among
      · intro other outside
        rw [sweeps.other other fun later among => outside later (List.mem_cons_of_mem _ among),
          FileTree.entry?_erase (by simp), if_neg (outside name List.mem_cons_self)]

/-! ## Reports in advance -/

theorem update_report {stale : List FilePath}
    (found : staleFiles tree directory (fragments.map Fragment.fileName) = .ok stale) :
    update .report tree directory fragments =
      (.ok { writtenChanges tree directory fragments with removed := stale }, tree) := by
  rw [update, writeAll_report]
  simp only [found]

theorem writtenChanges_outdated
    (outdated : ∀ fragment ∈ fragments, isCurrent tree directory fragment = false) :
    writtenChanges tree directory fragments = ⟨fragments.map (fileOf directory), [], []⟩ := by
  have changed : (fragments.filter fun fragment => !isCurrent tree directory fragment) =
      fragments := List.filter_eq_self.mpr fun fragment among => by
        rw [outdated fragment among]
        rfl
  have unchanged : fragments.filter (isCurrent tree directory) = [] :=
    List.filter_eq_nil_iff.mpr fun fragment among => Bool.eq_false_iff.mp (outdated fragment among)
  rw [writtenChanges, changed, unchanged]
  rfl

theorem writtenChanges_current
    (current : ∀ fragment ∈ fragments, isCurrent tree directory fragment = true) :
    writtenChanges tree directory fragments = ⟨[], fragments.map (fileOf directory), []⟩ := by
  have changed : (fragments.filter fun fragment => !isCurrent tree directory fragment) = [] :=
    List.filter_eq_nil_iff.mpr fun fragment among => by simp [current fragment among]
  rw [writtenChanges, changed, List.filter_eq_self.mpr current]
  rfl

theorem update_report_missing (usable : isUsablePath directory = true)
    (plain : ∀ fragment ∈ fragments, isPlainName fragment.fileName = true)
    (missing : ¬∃ place, tree.Opens directory place)
    (notListed : tree.list directory = .error .notFound) :
    update .report tree directory fragments =
      (.ok ⟨fragments.map (fileOf directory), [], []⟩, tree) := by
  have outdated : ∀ fragment ∈ fragments, isCurrent tree directory fragment = false := by
    intro fragment among
    rw [isCurrent, decide_eq_false_iff_not, fileOf_eq (plain fragment among), FileTree.readText?,
      FileTree.get?]
    cases led : tree.place? (directory.joinName fragment.fileName) with
    | ok target => exact absurd (FileTree.exists_opens_of_place? usable
        (isPlainName_iff.mp (plain fragment among)).1 led) missing
    | error fault => simp [bind, Except.bind]
  have none : staleFiles tree directory (fragments.map Fragment.fileName) = .ok [] := by
    rw [staleFiles, notListed]
  rw [update_report none, writtenChanges_outdated outdated]

theorem update_report_bare (opens : tree.Opens directory place)
    (plain : ∀ fragment ∈ fragments, isPlainName fragment.fileName = true)
    (bare : ∀ name, tree.entry? (place ++ [name]) = none) :
    update .report tree directory fragments =
      (.ok ⟨fragments.map (fileOf directory), [], []⟩, tree) := by
  have outdated : ∀ fragment ∈ fragments, isCurrent tree directory fragment = false := by
    intro fragment among
    rw [← Bool.not_eq_true, isCurrent_iff opens (plain fragment among), bare]
    exact fun ⟨_, found⟩ => nomatch found
  have none : staleFiles tree directory (fragments.map Fragment.fileName) = .ok [] := by
    by_cases named : directory = .empty
    · rw [named, staleFiles_empty]
    · have empty : tree.names place = [] := by
        rw [List.eq_nil_iff_forall_not_mem]
        intro name among
        rw [FileTree.mem_names, bare] at among
        cases among
      rw [staleFiles_eq opens named, empty, List.filter_nil, Text.sorted, List.mergeSort_nil]
      rfl
  rw [update_report none, writtenChanges_outdated outdated]

/-! ## Synchronizing -/

theorem sync_eq_ok (done : sync tree directory fragments = (.ok changes, after)) :
    ∃ made written more stale, tree.makeDirectory directory = (true, made) ∧
      writeAll .apply directory made fragments = (.ok more, written) ∧
      staleFiles written directory (fragments.map Fragment.fileName) = .ok stale ∧
      removeAll written stale = (.ok (), after) ∧ changes = { more with removed := stale } := by
  rw [sync] at done
  cases making : tree.makeDirectory directory with
  | mk success made =>
    rw [making] at done
    cases success with
    | false => cases done
    | true =>
      simp only [update] at done
      cases writing : writeAll .apply directory made fragments with
      | mk result written =>
        rw [writing] at done
        cases result with
        | error error => cases done
        | ok more =>
          cases found : staleFiles written directory (fragments.map Fragment.fileName) with
          | error error =>
            simp only [found] at done
            cases done
          | ok stale =>
            simp only [found] at done
            cases removing : removeAll written stale with
            | mk result last =>
              rw [removing] at done
              cases result with
              | error error => cases done
              | ok =>
                cases done
                exact ⟨made, written, more, stale, rfl, writing, found, removing, rfl⟩

/-- What has become of a tree whose directory is up to date. Only from the directory that the empty
path means, fragments that are left over are not removed. -/
structure Synced (tree after : FileTree) (directory : FilePath) (place : Place)
    (fragments : List Fragment) : Prop where
  opens : after.Opens directory place
  rooted : after.Rooted
  stored : ∀ fragment ∈ fragments, FileTree.takesName directory fragment.fileName = true ∧
    ∃ last ∈ fragments, last.fileName = fragment.fileName ∧
      after.entry? (place ++ [fragment.fileName]) = some (.file (.text last.code))
  swept : directory ≠ .empty → ∀ name ∈ after.names place, isStale fragments name = false
  other : ∀ other, (∀ name, other = place ++ [name] → name ∉ fragments.map Fragment.fileName ∧
      (isFragmentName name = true → directory = .empty)) →
    after.entry? other = FileTree.entry? (tree.makeDirectory directory).2 other

theorem synced_of_sync (rooted : tree.Rooted)
    (plain : ∀ fragment ∈ fragments, isPlainName fragment.fileName = true)
    (done : sync tree directory fragments = (.ok changes, after)) :
    ∃ place, Synced tree after directory place fragments := by
  obtain ⟨made, written, more, stale, making, writing, found, removing, -⟩ := sync_eq_ok done
  obtain ⟨place, opens⟩ := FileTree.exists_opens_of_makeDirectory rooted making
  have stores := storesAll_writeAll opens plain writing
  have opened := opens.mono stores.keeps.here fun _ => stores.keeps.directory
  obtain ⟨names, rfl, stales, all⟩ := staleFiles_eq_ok opened found
  have sweeps := sweeps_removeAll opened
    (fun name among => namesEntry_of_isFragmentName (isStale_iff.mp (stales name among).1).1)
    removing
  -- What is removed is not listed, so the files that were written are still there.
  refine ⟨place, opened.mono sweeps.here sweeps.directory,
    sweeps.rooted (stores.rooted (rooted.makeDirectory making)), ?_, ?_, ?_⟩
  · intro fragment among
    obtain ⟨takes, last, lastAmong, same, stored⟩ := stores.stored fragment among
    refine ⟨takes, last, lastAmong, same, ?_⟩
    rw [sweeps.other, stored]
    intro name nameAmong same
    obtain rfl : fragment.fileName = name := by simpa using same
    exact (isStale_iff.mp (stales _ nameAmong).1).2 (List.mem_map_of_mem among)
  · intro named name among
    by_contra stale
    rw [Bool.not_eq_false] at stale
    obtain ⟨there, notRemoved⟩ := sweeps.mem_names.mp among
    exact notRemoved (all named name there stale)
  · intro other outside
    rw [sweeps.other, stores.other, making]
    · intro fragment among same
      exact (outside fragment.fileName same).1 (List.mem_map_of_mem among)
    · intro name among same
      obtain ⟨stale, named⟩ := stales name among
      exact named ((outside name same).2 (isStale_iff.mp stale).1)

theorem writeAll_current (current : ∀ fragment ∈ fragments,
    isCurrent tree directory fragment = true) :
    writeAll .apply directory tree fragments =
      (.ok ⟨[], fragments.map (fileOf directory), []⟩, tree) := by
  induction fragments with
  | nil => rfl
  | cons fragment rest induction =>
    have same := of_decide_eq_true (current fragment List.mem_cons_self)
    have restCurrent := fun later among => current later (List.mem_cons_of_mem _ among)
    rw [fileOf] at same
    rw [writeAll]
    simp only [if_pos same, induction restCurrent]
    rfl

namespace Synced

variable (synced : Synced tree after directory place fragments)
include synced

theorem isCurrent (plain : ∀ fragment ∈ fragments, isPlainName fragment.fileName = true)
    (agree : ∀ first ∈ fragments, ∀ second ∈ fragments,
      first.fileName = second.fileName → first.code = second.code) :
    ∀ fragment ∈ fragments, Output.isCurrent after directory fragment = true := by
  intro fragment among
  obtain ⟨takes, last, lastAmong, same, stored⟩ := synced.stored fragment among
  rw [isCurrent_iff synced.opens (plain fragment among), stored,
    agree last lastAmong fragment among same]
  exact ⟨takes, rfl⟩

theorem staleFiles_eq_nil :
    staleFiles after directory (fragments.map Fragment.fileName) = .ok [] := by
  by_cases named : directory = .empty
  · rw [named, staleFiles_empty]
  · have none : (after.names place).filter (isStale fragments) = [] :=
      List.filter_eq_nil_iff.mpr fun name among =>
        Bool.eq_false_iff.mp (synced.swept named name among)
    rw [staleFiles_eq synced.opens named, none, Text.sorted, List.mergeSort_nil]
    rfl

/-- Once a directory is up to date there is nothing more to do. -/
theorem settled
    (current : ∀ fragment ∈ fragments, Output.isCurrent after directory fragment = true) :
    update .report after directory fragments =
        (.ok ⟨[], fragments.map (fileOf directory), []⟩, after) ∧
      sync after directory fragments =
        (.ok ⟨[], fragments.map (fileOf directory), []⟩, after) := by
  have none := synced.staleFiles_eq_nil
  constructor
  · rw [update_report none, writtenChanges_current current]
  · rw [sync, synced.opens.makeDirectory synced.rooted]
    simp only [update, writeAll_current current, none, removeAll]

/-- What is not brought up to date stays. -/
theorem untouched {entry : Entry} (there : tree.entry? other = some entry)
    (outside : ∀ name, other = place ++ [name] → name ∉ fragments.map Fragment.fileName ∧
      (isFragmentName name = true → directory = .empty)) :
    after.entry? other = some entry := by
  rw [synced.other other outside]
  exact FileTree.grows_makeDirectory.entry there

end Synced

/-- A report says what synchronizing changes, if it is made on a tree that has the directory. -/
theorem report_of_sync (rooted : tree.Rooted)
    (plain : ∀ fragment ∈ fragments, isPlainName fragment.fileName = true)
    (distinct : (fragments.map Fragment.fileName).Nodup)
    (done : sync tree directory fragments = (.ok changes, after)) :
    update .report (tree.makeDirectory directory).2 directory fragments =
      (.ok changes, (tree.makeDirectory directory).2) := by
  obtain ⟨made, written, more, stale, making, writing, found, -, rfl⟩ := sync_eq_ok done
  obtain ⟨place, opens⟩ := FileTree.exists_opens_of_makeDirectory rooted making
  have stores := storesAll_writeAll opens plain writing
  rw [stores.staleFiles_eq opens] at found
  rw [making, changes_of_writeAll opens plain distinct writing, update_report found]

/-- A directory that a path without `..` leads to need not be there for the report. -/
theorem report_of_sync_straight (rooted : tree.Rooted)
    (plain : ∀ fragment ∈ fragments, isPlainName fragment.fileName = true)
    (distinct : (fragments.map Fragment.fileName).Nodup)
    (done : sync tree directory fragments = (.ok changes, after))
    (straight : ".." ∉ directory.pieces ∨ ∃ place, tree.Opens directory place) :
    update .report tree directory fragments = (.ok changes, tree) := by
  have reported := report_of_sync rooted plain distinct done
  obtain ⟨made, -, -, -, making, -⟩ := sync_eq_ok done
  obtain ⟨place, opens⟩ := FileTree.exists_opens_of_makeDirectory rooted making
  by_cases there : ∃ place, tree.Opens directory place
  · obtain ⟨place, opens⟩ := there
    rwa [opens.makeDirectory rooted] at reported
  · rcases FileTree.makeDirectory_straight rooted (straight.resolve_right there) making opens with
      opens' | ⟨missing, notListed, bare⟩
    · exact absurd ⟨place, opens'⟩ there
    · rw [making, update_report_bare opens plain bare] at reported
      rw [update_report_missing opens.usable plain missing notListed]
      cases reported
      rfl

theorem keeps_of_notWritten {file : FilePath}
    (failed : sync tree directory fragments = (.error (.notWritten file), after)) :
    tree.Keeps after := by
  have grows : tree.Grows (tree.makeDirectory directory).2 := FileTree.grows_makeDirectory
  rw [sync] at failed
  cases making : tree.makeDirectory directory with
  | mk success made =>
    rw [making] at failed grows
    cases success with
    | false => cases failed
    | true =>
      have keeps : made.Keeps (writeAll .apply directory made fragments).2 := keeps_writeAll
      simp only [update] at failed
      cases writing : writeAll .apply directory made fragments with
      | mk result written =>
        rw [writing] at failed keeps
        cases result with
        | error error =>
          cases failed
          exact grows.keeps.trans keeps
        | ok more =>
          cases found : staleFiles written directory (fragments.map Fragment.fileName) with
          | error error =>
            simp only [found] at failed
            rw [staleFiles] at found
            split at found <;> cases found
            cases failed
          | ok stale =>
            simp only [found] at failed
            cases removing : removeAll written stale with
            | mk result last =>
              rw [removing] at failed
              cases result with
              | ok => cases failed
              | error error =>
                obtain ⟨file, rfl⟩ := removeAll_eq_error removing
                cases failed

/-- Synchronizing does what a report says in advance, and once is enough. Two kinds of paths are
special: a path with `..` can lead through directories that are only made by synchronizing, so that
the report looks in vain for what is there afterwards; and what is left over in the directory of the
empty path stays there. -/
theorem sync_converges (tree : FileTree) (directory : FilePath) (fragments : List Fragment)
    (rooted : tree.Rooted) (plain : ∀ fragment ∈ fragments, isPlainName fragment.fileName = true)
    (distinct : (fragments.map Fragment.fileName).Nodup) :
    (∀ changes after, sync tree directory fragments = (.ok changes, after) →
      (".." ∉ directory.pieces ∨ (∃ place, tree.Opens directory place) →
        update .report tree directory fragments = (.ok changes, tree)) ∧
      update .report (tree.makeDirectory directory).2 directory fragments =
        (.ok changes, (tree.makeDirectory directory).2) ∧
      (∃ place, after.Opens directory place ∧
        (∀ fragment ∈ fragments,
          after.entry? (place ++ [fragment.fileName]) = some (.file (.text fragment.code)) ∧
          after.readText? (fileOf directory fragment) = some fragment.code) ∧
        (directory ≠ .empty → ∀ name ∈ after.names place, isFragmentName name = true →
          name ∈ fragments.map Fragment.fileName) ∧
        (∀ other entry, tree.entry? other = some entry →
          (∀ name, other = place ++ [name] → name ∉ fragments.map Fragment.fileName ∧
            (isFragmentName name = true → directory = .empty)) →
          after.entry? other = some entry)) ∧
      update .report after directory fragments =
        (.ok ⟨[], fragments.map (fileOf directory), []⟩, after) ∧
      sync after directory fragments =
        (.ok ⟨[], fragments.map (fileOf directory), []⟩, after)) ∧
    ∀ file after, sync tree directory fragments = (.error (.notWritten file), after) →
      tree.Keeps after := by
  refine ⟨?_, fun file after failed => keeps_of_notWritten failed⟩
  intro changes after done
  obtain ⟨place, synced⟩ := synced_of_sync rooted plain done
  have agree : ∀ first ∈ fragments, ∀ second ∈ fragments,
      first.fileName = second.fileName → first.code = second.code := by
    intro first firstAmong second secondAmong same
    rw [List.inj_on_of_nodup_map distinct firstAmong secondAmong same]
  have current := synced.isCurrent plain agree
  refine ⟨report_of_sync_straight rooted plain distinct done,
    report_of_sync rooted plain distinct done, ⟨place, synced.opens, ?_, ?_, ?_⟩,
    synced.settled current⟩
  · intro fragment among
    exact ⟨((isCurrent_iff synced.opens (plain fragment among)).mp (current fragment among)).2,
      of_decide_eq_true (current fragment among)⟩
  · intro named name among isFragment
    by_contra notListed
    have stale := isStale_iff.mpr ⟨isFragment, notListed⟩
    rw [synced.swept named name among] at stale
    cases stale
  · intro other entry there outside
    exact synced.untouched there outside

/-- A directory with a fragment that is left over, and with a note: the report and what is done
agree, and after that there is nothing to do. -/
theorem sync_converges_leftover :
    let tree : FileTree := { entries := [(["gen"], .directory),
      (["gen", "Old.autoser.rs"], .file (.text "// old\n")),
      (["gen", "notes.txt"], .file (.text "keep\n"))] }
    let fragments : List Fragment := [⟨"A.autoser.rs", "// a\n"⟩, ⟨"autoser.rs", "// index\n"⟩]
    let changes : OutputChanges := ⟨[⟨["gen", "A.autoser.rs"]⟩, ⟨["gen", "autoser.rs"]⟩], [],
      [⟨["gen", "Old.autoser.rs"]⟩]⟩
    let after : FileTree := { entries := [(["gen"], .directory),
      (["gen", "notes.txt"], .file (.text "keep\n")),
      (["gen", "A.autoser.rs"], .file (.text "// a\n")),
      (["gen", "autoser.rs"], .file (.text "// index\n"))] }
    tree.Rooted ∧ sync tree (.ofText "gen") fragments = (.ok changes, after) ∧
      update .report tree (.ofText "gen") fragments = (.ok changes, tree) ∧
      sync after (.ofText "gen") fragments =
        (.ok ⟨[], fragments.map (fileOf (.ofText "gen")), []⟩, after) := by
  intro tree fragments changes after
  have facts : tree.Rooted ∧
      (∀ fragment ∈ fragments, isPlainName fragment.fileName = true) ∧
      (fragments.map Fragment.fileName).Nodup ∧ ".." ∉ (FilePath.ofText "gen").pieces ∧
      (sync tree (.ofText "gen") fragments).1.toOption = some changes ∧
      (sync tree (.ofText "gen") fragments).2 = after := by
    decide +kernel
  rcases facts with ⟨rooted, plain, distinct, straight, changed, changedTree⟩
  have succeeded (result : Except OutputError OutputChanges × FileTree)
      (changed : result.1.toOption = some changes) (changedTree : result.2 = after) :
      result = (.ok changes, after) := by
    obtain ⟨_ | found, last⟩ := result
    · cases changed
    · rw [Option.some.inj changed, ← changedTree]
  have done := succeeded _ changed changedTree
  obtain ⟨reported, -, -, -, settled⟩ :=
    (sync_converges tree (.ofText "gen") fragments rooted plain distinct).1 changes after done
  exact ⟨rooted, done, reported (.inl straight), settled⟩

end Output

end Wireform.Package
