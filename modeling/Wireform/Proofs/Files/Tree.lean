import Mathlib.Data.List.Basic
import Mathlib.Data.List.Induction
import Wireform.Files.Tree

/-! # Places in file trees

What the operations on a tree change and what they leave alone, place by place, and where a path
leads after them. -/

namespace Wireform.Files

/-- Whether a piece of a path stands for an entry of the directory before it. -/
def namesEntry (piece : String) : Bool := piece ≠ "" && piece ≠ "." && piece ≠ ".."

theorem namesEntry_iff {piece : String} :
    namesEntry piece = true ↔ piece ≠ "" ∧ piece ≠ "." ∧ piece ≠ ".." := by
  simp [namesEntry, and_assoc]

namespace FileTree

variable {tree after : FileTree} {place other : Place} {entry : Entry} {name : String}
  {pieces : List String} {path : FilePath}

/-! ## Entries -/

@[simp] theorem here_insert : (tree.insert place entry).here = tree.here := rfl

@[simp] theorem here_erase : (tree.erase place).here = tree.here := rfl

@[simp] theorem entry?_nil : tree.entry? [] = some .directory := rfl

theorem entry?_of_ne_nil (below : place ≠ []) : tree.entry? place = tree.entries.lookup place := by
  have notEmpty : place.isEmpty = false := by simpa using below
  unfold entry?
  rw [notEmpty, if_neg Bool.false_ne_true]

theorem isDirectory_iff : tree.isDirectory place = true ↔ tree.entry? place = some .directory := by
  simp [isDirectory]

theorem fault?_eq_none_iff : tree.fault? place = none ↔ tree.isDirectory place = true := by
  rw [isDirectory_iff, fault?]
  split <;> simp_all

theorem lookup_filter_ne (entries : List (Place × Entry)) (place other : Place) :
    (entries.filter (·.1 ≠ place)).lookup other =
      if other = place then none else entries.lookup other := by
  induction entries with
  | nil => simp
  | cons head tail induction =>
    obtain ⟨at', entry⟩ := head
    by_cases removed : at' = place
    · subst removed
      rw [List.filter_cons_of_neg (by simp), induction]
      by_cases same : other = at'
      · rw [if_pos same, if_pos same]
      · rw [if_neg same, if_neg same, List.lookup_cons]
        have different : (other == at') = false := by simpa using same
        rw [different]
    · rw [List.filter_cons_of_pos (by simpa using removed), List.lookup_cons, List.lookup_cons,
        induction]
      by_cases found : other = at'
      · subst found
        simp [removed]
      · have different : (other == at') = false := by simpa using found
        rw [different]

theorem entry?_insert (below : place ≠ []) :
    entry? (tree.insert place entry) other =
      if other = place then some entry else tree.entry? other := by
  by_cases top : other = []
  · subst top
    rw [if_neg (Ne.symm below)]
    rfl
  · rw [entry?_of_ne_nil top, entry?_of_ne_nil top, insert, List.lookup_append, lookup_filter_ne]
    by_cases same : other = place
    · subst same
      simp
    · have different : (other == place) = false := by simpa using same
      rw [if_neg same, if_neg same, List.lookup_cons, different]
      simp

theorem entry?_erase (below : place ≠ []) :
    entry? (tree.erase place) other = if other = place then none else tree.entry? other := by
  by_cases top : other = []
  · subst top
    rw [if_neg (Ne.symm below)]
    rfl
  · rw [entry?_of_ne_nil top, entry?_of_ne_nil top, erase, lookup_filter_ne]

theorem entry?_isSome_iff (below : place ≠ []) :
    (tree.entry? place).isSome = true ↔ ∃ entry ∈ tree.entries, entry.1 = place := by
  rw [entry?_of_ne_nil below, List.lookup_isSome_iff]
  simp only [beq_iff_eq]
  constructor <;> exact fun ⟨entry, among, same⟩ => ⟨entry, among, same.symm⟩

theorem mem_names : name ∈ tree.names place ↔ (tree.entry? (place ++ [name])).isSome = true := by
  have lasts (at' : Place) :
      (if at'.dropLast = place then at'.getLast? else none) = some name ↔
        at' = place ++ [name] := by
    constructor
    · intro last
      by_cases parent : at'.dropLast = place
      · rw [if_pos parent] at last
        rw [← parent]
        exact (List.dropLast_append_getLast? name last).symm
      · rw [if_neg parent] at last
        cases last
    · rintro rfl
      simp
  rw [entry?_isSome_iff (by simp), names, List.mem_filterMap]
  simp only [lasts]

theorem filter_names_insert {wanted : String → Bool} (unwanted : wanted name = false) :
    ((tree.insert (place ++ [name]) entry).names place).filter wanted =
      (tree.names place).filter wanted := by
  have kept (entries : List (Place × Entry)) :
      ((entries.filter (·.1 ≠ place ++ [name])).filterMap fun entry =>
        if entry.1.dropLast = place then entry.1.getLast? else none).filter wanted =
      (entries.filterMap fun entry =>
        if entry.1.dropLast = place then entry.1.getLast? else none).filter wanted := by
    induction entries with
    | nil => rfl
    | cons head tail induction =>
      by_cases removed : head.1 = place ++ [name]
      · rw [List.filter_cons_of_neg (by simpa using removed), List.filterMap_cons, induction]
        simp [removed, unwanted]
      · rw [List.filter_cons_of_pos (by simpa using removed), List.filterMap_cons,
          List.filterMap_cons]
        cases if head.1.dropLast = place then head.1.getLast? else none with
        | none => exact induction
        | some found =>
          by_cases asked : wanted found = true
          · simp only [List.filter_cons_of_pos asked, induction]
          · simp only [List.filter_cons_of_neg asked, induction]
  rw [names, insert, List.filterMap_append, List.filter_append, kept]
  simp [names, unwanted]

/-! ## What stays -/

/-- Directories stay directories, and files stay files. -/
structure Keeps (tree after : FileTree) : Prop where
  here : after.here = tree.here
  directory : ∀ {place}, tree.isDirectory place = true → after.isDirectory place = true
  file : ∀ {place content}, tree.entry? place = some (.file content) →
    ∃ content, after.entry? place = some (.file content)

theorem Keeps.refl : tree.Keeps tree := ⟨rfl, id, fun found => ⟨_, found⟩⟩

theorem Keeps.trans {last : FileTree} (first : tree.Keeps after) (second : after.Keeps last) :
    tree.Keeps last where
  here := second.here.trans first.here
  directory here := second.directory (first.directory here)
  file found := by
    obtain ⟨content, found⟩ := first.file found
    exact second.file found

/-- A tree in which every entry is in a directory, and in which relative paths start from one. -/
structure Rooted (tree : FileTree) : Prop where
  parent : ∀ place name, (tree.entry? (place ++ [name])).isSome → tree.isDirectory place = true
  here : tree.isDirectory tree.here = true

theorem rooted_iff :
    tree.Rooted ↔ (∀ entry ∈ tree.entries, tree.isDirectory entry.1.dropLast = true) ∧
      tree.isDirectory tree.here = true := by
  constructor
  · intro rooted
    refine ⟨fun entry among => ?_, rooted.here⟩
    obtain top | ⟨above, name, parts⟩ := List.eq_nil_or_concat entry.1
    · rw [top]
      rfl
    · rw [List.concat_eq_append] at parts
      rw [parts, List.dropLast_concat]
      exact rooted.parent above name ((entry?_isSome_iff (by simp)).mpr ⟨entry, among, parts⟩)
  · rintro ⟨parents, here⟩
    refine ⟨fun place name found => ?_, here⟩
    obtain ⟨entry, among, same⟩ := (entry?_isSome_iff (by simp)).mp found
    have parent := parents entry among
    rwa [same, List.dropLast_concat] at parent

instance : Decidable tree.Rooted := decidable_of_iff _ rooted_iff.symm

theorem Rooted.isDirectory_dropLast (rooted : tree.Rooted) (here : tree.isDirectory place = true) :
    tree.isDirectory place.dropLast = true := by
  obtain rfl | ⟨above, last, rfl⟩ := List.eq_nil_or_concat place
  · exact here
  · rw [List.concat_eq_append] at here ⊢
    rw [List.dropLast_concat]
    exact rooted.parent above last (by rw [isDirectory_iff.mp here]; rfl)

theorem Rooted.entry?_append_eq_none (rooted : tree.Rooted) (missing : tree.entry? place = none)
    (rest : List String) : tree.entry? (place ++ rest) = none := by
  induction rest using List.reverseRecOn with
  | nil => simpa using missing
  | append_singleton rest name induction =>
    rw [← List.append_assoc]
    by_contra found
    have parent := rooted.parent _ _ (Option.isSome_iff_ne_none.mpr found)
    rw [isDirectory_iff, induction] at parent
    cases parent

/-- Only directories are new. -/
structure Grows (tree after : FileTree) : Prop where
  here : after.here = tree.here
  entry : ∀ {place entry}, tree.entry? place = some entry → after.entry? place = some entry
  file : ∀ {place content}, after.entry? place = some (.file content) →
    tree.entry? place = some (.file content)

theorem Grows.refl : tree.Grows tree := ⟨rfl, id, id⟩

theorem Grows.trans {last : FileTree} (first : tree.Grows after) (second : after.Grows last) :
    tree.Grows last where
  here := second.here.trans first.here
  entry found := second.entry (first.entry found)
  file found := first.file (second.file found)

theorem Grows.keeps (grows : tree.Grows after) : tree.Keeps after where
  here := grows.here
  directory here := isDirectory_iff.mpr (grows.entry (isDirectory_iff.mp here))
  file found := ⟨_, grows.entry found⟩

theorem ne_nil_of_missing (missing : tree.entry? place = none) : place ≠ [] := by
  rintro rfl
  cases missing

theorem grows_insert (missing : tree.entry? place = none) :
    tree.Grows (tree.insert place .directory) where
  here := here_insert
  entry := by
    intro other entry found
    have different : other ≠ place := by
      rintro rfl
      rw [missing] at found
      cases found
    rwa [entry?_insert (ne_nil_of_missing missing), if_neg different]
  file := by
    intro other content found
    rw [entry?_insert (ne_nil_of_missing missing)] at found
    by_cases same : other = place
    · rw [if_pos same] at found
      cases found
    · rwa [if_neg same] at found

theorem keeps_insert_file {content : Content} (below : place ≠ [])
    (notDirectory : tree.isDirectory place = false) :
    tree.Keeps (tree.insert place (.file content)) where
  here := here_insert
  directory := by
    intro other here
    have different : other ≠ place := by
      rintro rfl
      rw [notDirectory] at here
      cases here
    rwa [isDirectory_iff, entry?_insert below, if_neg different, ← isDirectory_iff]
  file := by
    intro other old found
    rw [entry?_insert below]
    by_cases same : other = place
    · exact ⟨content, by rw [if_pos same]⟩
    · exact ⟨old, by rwa [if_neg same]⟩

theorem Rooted.insert (rooted : tree.Rooted) (parent : tree.isDirectory place = true)
    (keeps : tree.Keeps (tree.insert (place ++ [name]) entry)) :
    (tree.insert (place ++ [name]) entry).Rooted := by
  refine ⟨fun above last found => ?_, keeps.directory rooted.here⟩
  rw [entry?_insert (by simp)] at found
  by_cases same : above ++ [last] = place ++ [name]
  · obtain ⟨rfl, -⟩ := List.append_inj' same rfl
    exact keeps.directory parent
  · rw [if_neg same] at found
    exact keeps.directory (rooted.parent _ _ found)

theorem isDirectory_erase {content : Content} (file : tree.entry? place = some (.file content))
    (here : tree.isDirectory other = true) : (tree.erase place).isDirectory other = true := by
  have below : place ≠ [] := by
    rintro rfl
    cases file
  have different : other ≠ place := by
    rintro rfl
    rw [isDirectory_iff, file] at here
    cases here
  rwa [isDirectory_iff, entry?_erase below, if_neg different, ← isDirectory_iff]

theorem Rooted.erase {content : Content} (rooted : tree.Rooted)
    (file : tree.entry? place = some (.file content)) : (tree.erase place).Rooted := by
  have below : place ≠ [] := by
    rintro rfl
    cases file
  refine ⟨fun above last found => ?_, isDirectory_erase file rooted.here⟩
  rw [entry?_erase below] at found
  by_cases same : above ++ [last] = place
  · rw [if_pos same] at found
    cases found
  · rw [if_neg same] at found
    exact isDirectory_erase file (rooted.parent _ _ found)

/-! ## Following paths -/

/-- Where one piece of a path leads from a directory. -/
def step (place : Place) (piece : String) : Except PathFault Place :=
  if piece = "" ∨ piece = "." then .ok place
  else if piece = ".." then .ok place.dropLast
  else if isUsableName piece then .ok (place ++ [piece])
  else .error .unusable

theorem step_name (isName : namesEntry name = true) :
    step place name = if isUsableName name then .ok (place ++ [name]) else .error .unusable := by
  obtain ⟨notEmpty, notHere, notUp⟩ := namesEntry_iff.mp isName
  rw [step, if_neg (by simp [notEmpty, notHere]), if_neg notUp]

theorem follow_cons {piece : String} (here : tree.isDirectory place = true) :
    tree.follow place (piece :: pieces) =
      (step place piece).bind fun next => tree.follow next pieces := by
  simp only [follow, fault?_eq_none_iff.mpr here, step]
  by_cases stays : piece = "" ∨ piece = "."
  · simp only [if_pos stays]
    rfl
  simp only [if_neg stays]
  by_cases up : piece = ".."
  · simp only [if_pos up]
    rfl
  simp only [if_neg up]
  by_cases usable : isUsableName piece = true
  · simp only [if_pos usable]
    rfl
  · simp only [if_neg usable]
    rfl

theorem isDirectory_of_follow_cons {piece : String} {target : Place}
    (follows : tree.follow place (piece :: pieces) = .ok target) :
    tree.isDirectory place = true := by
  rw [← fault?_eq_none_iff]
  by_contra fault
  obtain ⟨fault, found⟩ := Option.ne_none_iff_exists'.mp fault
  rw [follow, found] at follows
  cases follows

/-- A path that can be followed can still be followed when the directories are still there. -/
theorem follow_mono {target : Place}
    (kept : ∀ place, tree.isDirectory place = true → after.isDirectory place = true)
    (follows : tree.follow place pieces = .ok target) : after.follow place pieces = .ok target := by
  induction pieces generalizing place with
  | nil => exact follows
  | cons piece rest induction =>
    have here := isDirectory_of_follow_cons follows
    rw [follow_cons here] at follows
    rw [follow_cons (kept _ here)]
    cases next : step place piece with
    | error fault =>
      rw [next] at follows
      cases follows
    | ok next' =>
      rw [next] at follows
      exact induction follows

theorem follow_append (first second : List String) :
    tree.follow place (first ++ second) =
      (tree.follow place first).bind fun target => tree.follow target second := by
  induction first generalizing place with
  | nil => rfl
  | cons piece rest induction =>
    by_cases here : tree.isDirectory place = true
    · rw [List.cons_append, follow_cons here, follow_cons here]
      cases step place piece with
      | error fault => rfl
      | ok next => exact induction
    · rw [← fault?_eq_none_iff] at here
      obtain ⟨fault, found⟩ := Option.ne_none_iff_exists'.mp here
      rw [List.cons_append, follow, follow, found]
      rfl

theorem follow_name (here : tree.isDirectory place = true) (isName : namesEntry name = true) :
    tree.follow place [name] =
      if isUsableName name then .ok (place ++ [name]) else .error .unusable := by
  rw [follow_cons here, step_name isName]
  cases isUsableName name <;> rfl

theorem follow_missing (pieces : List String) (missing : tree.entry? place = none) :
    tree.follow place pieces = .error .notFound ∨ tree.follow place pieces = .ok place := by
  cases pieces with
  | nil => exact .inr rfl
  | cons piece rest =>
    left
    simp [follow, fault?, missing]

/-! ## What paths lead to -/

theorem exists_mem_entries_of_get? {content : Content}
    (found : tree.get? path = .ok (.file content)) :
    ∃ place, (place, Entry.file content) ∈ tree.entries := by
  rw [get?] at found
  cases leads : tree.place? path with
  | error fault =>
    rw [leads] at found
    cases found
  | ok place =>
    rw [leads] at found
    cases here : tree.entry? place with
    | none =>
      simp only [here, bind, Except.bind] at found
      cases found
    | some entry =>
      simp only [here, bind, Except.bind] at found
      cases found
      by_cases top : place = []
      · subst top
        cases here
      · rw [entry?_of_ne_nil top, List.lookup_eq_some_iff] at here
        rcases here with ⟨before, behind, parts, -⟩
        exact ⟨place, by rw [parts]; exact List.mem_append_right _ List.mem_cons_self⟩

theorem isUsablePath_of_pathExists (found : tree.pathExists path = true) :
    isUsablePath path = true := by
  by_contra unusable
  rw [Bool.not_eq_true] at unusable
  have fault : tree.place? path = .error .unusable := by
    rw [place?, unusable]
    rfl
  rw [pathExists, get?, fault] at found
  cases found

theorem readText?_eq_some_iff {text : String} :
    tree.readText? path = some text ↔ tree.get? path = .ok (.file (.text text)) := by
  rw [readText?]
  split
  · rename_i found
    simp [found]
  · rename_i other
    constructor
    · exact nofun
    · exact fun found => absurd found (other text)

theorem pathExists_of_readText? {text : String} (holds : tree.readText? path = some text) :
    tree.pathExists path = true := by
  rw [pathExists, readText?_eq_some_iff.mp holds]
  rfl

/-! ## Making directories -/

theorem grows_makeAll : tree.Grows (tree.makeAll place pieces).2 := by
  fun_induction makeAll tree place pieces with
  | case1 => exact .refl
  | case2 => assumption
  | case3 => assumption
  | case4 => exact .refl
  | case5 => assumption
  | case6 => exact .refl
  | case7 tree place piece rest _ _ _ next missing induction =>
    exact (grows_insert missing).trans induction

theorem step_cases {piece : String} {next : Place} (steps : step place piece = .ok next) :
    next = place ∨ piece = ".." ∧ next = place.dropLast ∨ next = place ++ [piece] := by
  rw [step] at steps
  split at steps
  · cases steps
    exact .inl rfl
  · split at steps
    · cases steps
      exact .inr (.inl ⟨‹_›, rfl⟩)
    · split at steps
      · cases steps
        exact .inr (.inr rfl)
      · cases steps

theorem makeAll_cons {piece : String} (rooted : tree.Rooted)
    (here : tree.isDirectory place = true) :
    tree.makeAll place (piece :: pieces) =
      match step place piece with
      | .error _ => (false, tree)
      | .ok next =>
        match tree.entry? next with
        | some .directory => tree.makeAll next pieces
        | some (.file _) => (false, tree)
        | none => (tree.insert next .directory).makeAll next pieces := by
  rw [makeAll, step]
  by_cases stays : piece = "" ∨ piece = "."
  · simp only [if_pos stays, isDirectory_iff.mp here]
  simp only [if_neg stays]
  by_cases up : piece = ".."
  · simp only [if_pos up, isDirectory_iff.mp (rooted.isDirectory_dropLast here)]
  simp only [if_neg up]
  by_cases usable : isUsableName piece = true
  · rewrite [if_neg (by simp [usable]), if_pos usable]
    cases found : tree.entry? (place ++ [piece]) with
    | none => simp only [found]
    | some entry => cases entry <;> simp only [found]
  · simp [usable]

/-- How the first directory of a path is made: it is there already, or its name is not taken. -/
theorem makeAll_cons_eq_true {piece : String} (rooted : tree.Rooted)
    (here : tree.isDirectory place = true)
    (made : tree.makeAll place (piece :: pieces) = (true, after)) :
    ∃ next grown, step place piece = .ok next ∧
      (grown = tree ∧ tree.isDirectory next = true ∨
        grown = tree.insert next .directory ∧ tree.entry? next = none) ∧
      grown.Rooted ∧ grown.isDirectory next = true ∧
      grown.makeAll next pieces = (true, after) := by
  rw [makeAll_cons rooted here] at made
  cases steps : step place piece with
  | error fault =>
    rw [steps] at made
    cases made
  | ok next =>
    simp only [steps] at made
    cases found : tree.entry? next with
    | some entry =>
      cases entry with
      | file content =>
        simp only [found] at made
        cases made
      | directory =>
        simp only [found] at made
        have there := isDirectory_iff.mpr found
        exact ⟨next, tree, rfl, .inl ⟨rfl, there⟩, rooted, there, made⟩
    | none =>
      simp only [found] at made
      refine ⟨next, _, rfl, .inr ⟨rfl, found⟩, ?_, ?_, made⟩
      · -- Only a step down can lead to what is missing.
        rcases step_cases steps with rfl | ⟨-, rfl⟩ | rfl
        · rw [isDirectory_iff, found] at here
          cases here
        · have parent := rooted.isDirectory_dropLast here
          rw [isDirectory_iff, found] at parent
          cases parent
        · exact rooted.insert here (grows_insert found).keeps
      · rw [isDirectory_iff, entry?_insert (ne_nil_of_missing found), if_pos rfl]

theorem Rooted.makeAll (rooted : tree.Rooted) (here : tree.isDirectory place = true)
    (made : tree.makeAll place pieces = (true, after)) : after.Rooted := by
  induction pieces generalizing tree place with
  | nil =>
    cases made
    exact rooted
  | cons piece rest induction =>
    obtain ⟨next, grown, -, -, rooted, there, made⟩ := makeAll_cons_eq_true rooted here made
    exact induction rooted there made

/-- A way through directories that are made can be followed. -/
theorem follow_makeAll (rooted : tree.Rooted) (here : tree.isDirectory place = true)
    (made : tree.makeAll place pieces = (true, after)) :
    ∃ target, after.follow place pieces = .ok target ∧ after.isDirectory target = true := by
  induction pieces generalizing tree place with
  | nil =>
    cases made
    exact ⟨place, rfl, here⟩
  | cons piece rest induction =>
    have grows : tree.Grows after := by
      have grows : tree.Grows (tree.makeAll place (piece :: rest)).2 := grows_makeAll
      rwa [made] at grows
    obtain ⟨next, grown, steps, -, rooted, there, made⟩ := makeAll_cons_eq_true rooted here made
    rw [follow_cons (grows.keeps.directory here), steps]
    exact induction rooted there made

/-- Where a path can be followed to a directory, nothing is made. -/
theorem makeAll_of_follow {target : Place} (rooted : tree.Rooted)
    (follows : tree.follow place pieces = .ok target) (there : tree.isDirectory target = true) :
    tree.makeAll place pieces = (true, tree) := by
  induction pieces generalizing place with
  | nil => rfl
  | cons piece rest induction =>
    have here := isDirectory_of_follow_cons follows
    rw [follow_cons here] at follows
    rw [makeAll_cons rooted here]
    cases steps : step place piece with
    | error fault =>
      rw [steps] at follows
      cases follows
    | ok next =>
      rw [steps] at follows
      have entered : tree.isDirectory next = true := by
        cases rest with
        | nil =>
          cases follows
          exact there
        | cons second rest => exact isDirectory_of_follow_cons follows
      simp only [isDirectory_iff.mp entered]
      exact induction follows

/-- A directory that was missing holds nothing. -/
theorem Rooted.bare_insert (rooted : tree.Rooted) (missing : tree.entry? place = none)
    (name : String) : entry? (tree.insert place .directory) (place ++ [name]) = none := by
  rw [entry?_insert (ne_nil_of_missing missing), if_neg (by simp)]
  exact rooted.entry?_append_eq_none missing [name]

/-- Below a directory that holds nothing, the directories that are made hold one another only. -/
theorem bare_makeAll (rooted : tree.Rooted) (here : tree.isDirectory place = true)
    (bare : ∀ name, tree.entry? (place ++ [name]) = none) (straight : ".." ∉ pieces)
    (made : tree.makeAll place pieces = (true, after)) {target : Place}
    (follows : after.follow place pieces = .ok target) (name : String) :
    after.entry? (target ++ [name]) = none := by
  induction pieces generalizing tree place with
  | nil =>
    cases follows
    cases made
    exact bare name
  | cons piece rest induction =>
    have restStraight : ".." ∉ rest := fun among => straight (List.mem_cons_of_mem _ among)
    obtain ⟨next, grown, steps, grown_eq, grownRooted, there, onward⟩ :=
      makeAll_cons_eq_true rooted here made
    rw [follow_cons (isDirectory_of_follow_cons follows), steps] at follows
    refine induction grownRooted there ?_ restStraight onward follows
    rcases grown_eq with ⟨rfl, there⟩ | ⟨rfl, missing⟩
    · -- The next directory was there before, so it cannot be inside this one.
      rcases step_cases steps with rfl | ⟨rfl, -⟩ | rfl
      · exact bare
      · exact absurd List.mem_cons_self straight
      · rw [isDirectory_iff, bare] at there
        cases there
    · exact rooted.bare_insert missing

/-- A directory that a straight path leads to was there before it was made, or the path led nowhere
and the directory is new and empty. -/
theorem makeAll_straight (rooted : tree.Rooted) (here : tree.isDirectory place = true)
    (straight : ".." ∉ pieces) (made : tree.makeAll place pieces = (true, after)) {target : Place}
    (follows : after.follow place pieces = .ok target) :
    tree.follow place pieces = .ok target ∧ tree.isDirectory target = true ∨
      (tree.follow place pieces = .error .notFound ∨
        ∃ other, tree.follow place pieces = .ok other ∧ tree.entry? other = none) ∧
      ∀ name, after.entry? (target ++ [name]) = none := by
  induction pieces generalizing tree place with
  | nil =>
    cases follows
    exact .inl ⟨rfl, here⟩
  | cons piece rest induction =>
    have restStraight : ".." ∉ rest := fun among => straight (List.mem_cons_of_mem _ among)
    obtain ⟨next, grown, steps, grown_eq, grownRooted, there, onward⟩ :=
      makeAll_cons_eq_true rooted here made
    rw [follow_cons (isDirectory_of_follow_cons follows), steps] at follows
    rw [follow_cons here, steps]
    rcases grown_eq with ⟨rfl, -⟩ | ⟨rfl, missing⟩
    · exact induction rooted there restStraight onward follows
    · right
      constructor
      · rcases follow_missing rest missing with failed | led
        · exact .inl failed
        · exact .inr ⟨next, led, missing⟩
      · exact bare_makeAll grownRooted there (rooted.bare_insert missing) restStraight onward
          follows

end FileTree

end Wireform.Files
