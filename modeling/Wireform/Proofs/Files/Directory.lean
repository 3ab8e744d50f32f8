import Wireform.Proofs.Files.Tree

/-! # Files of one directory

A path that leads to a directory and one more name lead to an entry of it, however the path is
written. The empty path is the exception: what is in the directory it means can be reached by name,
but cannot be listed. -/

namespace Wireform.Files

namespace FilePath

variable {directory : FilePath} {name : String}

/-- The pieces of a path that stand in front of a name in its directory. -/
def stemPieces (directory : FilePath) : List String :=
  if directory.pieces.getLast? = some "" then directory.pieces.dropLast else directory.pieces

theorem isAbsolute_iff : directory.isAbsolute = true ↔ ∃ second rest,
    directory.pieces = "" :: second :: rest := by
  obtain ⟨pieces⟩ := directory
  match pieces with
  | [] => simp [isAbsolute]
  | [_] => simp [isAbsolute]
  | first :: second :: rest =>
    by_cases root : first = ""
    · simp [isAbsolute, root]
    · simp [isAbsolute, root]

theorem joinName_eq : directory.joinName name = ⟨directory.stemPieces ++ [name]⟩ := by
  have single : isAbsolute ⟨[name]⟩ = false := by simp [isAbsolute]
  rw [joinName, join, single, Bool.false_or, stemPieces]
  by_cases none : directory = empty
  · subst none
    rfl
  · rw [if_neg (by simpa using none)]
    by_cases closed : directory.pieces.getLast? = some ""
    · rw [if_pos closed, if_pos closed]
    · rw [if_neg closed, if_neg closed]

theorem joinName_ne_empty (isName : namesEntry name = true) : directory.joinName name ≠ empty := by
  obtain ⟨notEmpty, -, -⟩ := namesEntry_iff.mp isName
  rw [joinName_eq]
  intro same
  have last := congrArg (fun path => path.pieces.getLast?) same
  simp [empty] at last
  exact notEmpty last

/-- A name in a directory is found from where the directory is found. -/
theorem isAbsolute_joinName (isName : namesEntry name = true) :
    (directory.joinName name).isAbsolute = directory.isAbsolute := by
  obtain ⟨notEmpty, -, -⟩ := namesEntry_iff.mp isName
  rw [Bool.eq_iff_iff, isAbsolute_iff, isAbsolute_iff, joinName_eq]
  obtain ⟨pieces⟩ := directory
  match pieces with
  | [] => simp [stemPieces]
  | [first] => by_cases blank : first = "" <;> simp [stemPieces, blank]
  | first :: next :: more =>
    obtain ⟨tail, parts⟩ : ∃ tail, stemPieces ⟨first :: next :: more⟩ = first :: tail := by
      rw [stemPieces]
      split <;> exact ⟨_, rfl⟩
    rw [parts]
    cases tail <;> simp

theorem split_eq_singleton {letters : List Char} (plain : '/' ∉ letters) :
    split letters = [letters] := by
  induction letters with
  | nil => rfl
  | cons letter rest induction =>
    have notSlash : letter ≠ '/' := fun same => plain (same ▸ List.mem_cons_self)
    rw [split, if_neg notSlash, induction fun among => plain (List.mem_cons_of_mem _ among)]

/-- A name without slashes is one piece. -/
theorem join_ofText (plain : '/' ∉ name.toList) :
    directory.join (.ofText name) = directory.joinName name := by
  rw [ofText, split_eq_singleton plain, joinName, List.map_cons, List.map_nil, String.ofList_toList]

end FilePath

namespace FileTree

variable {tree after : FileTree} {directory : FilePath} {place target : Place} {name text : String}

/-- A path leads to the directory at a place. -/
structure Opens (tree : FileTree) (directory : FilePath) (place : Place) : Prop where
  usable : isUsablePath directory = true
  follows : tree.follow (tree.start directory) directory.pieces = .ok place
  isDirectory : tree.isDirectory place = true

theorem start_eq (same : after.here = tree.here) (path : FilePath) :
    after.start path = tree.start path := by
  rw [start, start, same]

theorem Opens.mono (opens : tree.Opens directory place) (same : after.here = tree.here)
    (kept : ∀ place, tree.isDirectory place = true → after.isDirectory place = true) :
    after.Opens directory place where
  usable := opens.usable
  follows := start_eq same directory ▸ follow_mono kept opens.follows
  isDirectory := kept _ opens.isDirectory

def takesName (directory : FilePath) (name : String) : Bool :=
  isUsablePath (directory.joinName name) && isUsableName name

theorem follow_stemPieces_iff {first : Place} :
    tree.follow first directory.stemPieces = .ok place ∧ tree.isDirectory place = true ↔
      tree.follow first directory.pieces = .ok place ∧ tree.isDirectory place = true := by
  rw [FilePath.stemPieces]
  by_cases closed : directory.pieces.getLast? = some ""
  · rw [if_pos closed]
    have parts : directory.pieces = directory.pieces.dropLast ++ [""] :=
      (List.dropLast_append_getLast? "" closed).symm
    have enter (here : tree.isDirectory place = true) : tree.follow place [""] = .ok place := by
      rw [follow_cons here]
      rfl
    constructor
    · rintro ⟨follows, here⟩
      rw [parts, follow_append, follows]
      exact ⟨enter here, here⟩
    · rintro ⟨follows, here⟩
      rw [parts, follow_append] at follows
      cases led : tree.follow first directory.pieces.dropLast with
      | error fault =>
        rw [led] at follows
        cases follows
      | ok other =>
        rw [led] at follows
        have there := isDirectory_of_follow_cons follows
        rw [Except.bind, follow_cons there] at follows
        cases follows
        exact ⟨rfl, here⟩
  · rw [if_neg closed]

theorem start_joinName (isName : namesEntry name = true) :
    tree.start (directory.joinName name) = tree.start directory := by
  rw [start, start, FilePath.isAbsolute_joinName isName]

theorem Opens.place?_joinName (opens : tree.Opens directory place)
    (isName : namesEntry name = true) :
    tree.place? (directory.joinName name) =
      if takesName directory name then .ok (place ++ [name]) else .error .unusable := by
  have stem := follow_stemPieces_iff.mpr ⟨opens.follows, opens.isDirectory⟩
  have follows : tree.follow (tree.start directory) (directory.joinName name).pieces =
      if isUsableName name then .ok (place ++ [name]) else .error .unusable := by
    rw [FilePath.joinName_eq, follow_append, stem.1]
    exact follow_name opens.isDirectory isName
  rw [place?, start_joinName isName, follows, takesName]
  simp only [FilePath.joinName_ne_empty isName]
  cases isUsablePath (directory.joinName name) <;> cases isUsableName name <;> rfl

/-- Where a name leads somewhere, the path in front of it leads to a directory. -/
theorem exists_opens_of_place? (usable : isUsablePath directory = true)
    (isName : namesEntry name = true)
    (led : tree.place? (directory.joinName name) = .ok target) :
    ∃ place, tree.Opens directory place := by
  rw [place?] at led
  split at led
  · cases led
  split at led
  · cases led
  rw [start_joinName isName, FilePath.joinName_eq, follow_append] at led
  cases stem : tree.follow (tree.start directory) directory.stemPieces with
  | error fault =>
    rw [stem] at led
    cases led
  | ok place =>
    rw [stem] at led
    have here := isDirectory_of_follow_cons led
    obtain ⟨follows, -⟩ := follow_stemPieces_iff.mp ⟨stem, here⟩
    exact ⟨place, usable, follows, here⟩

/-! ## Files by name -/

theorem Opens.readText?_joinName (opens : tree.Opens directory place)
    (isName : namesEntry name = true) :
    tree.readText? (directory.joinName name) = some text ↔
      takesName directory name = true ∧
        tree.entry? (place ++ [name]) = some (.file (.text text)) := by
  rw [readText?, get?, opens.place?_joinName isName]
  cases takesName directory name with
  | false => simp [bind, Except.bind]
  | true =>
    simp only [if_true, bind, Except.bind]
    cases tree.entry? (place ++ [name]) with
    | none => simp
    | some entry =>
      rcases entry with content | _
      · cases content <;> simp [pure, Except.pure]
      · simp [pure, Except.pure]

theorem Opens.writeText?_joinName (opens : tree.Opens directory place)
    (isName : namesEntry name = true)
    (written : tree.writeText? (directory.joinName name) text = some after) :
    takesName directory name = true ∧ tree.isDirectory (place ++ [name]) = false ∧
      after = tree.insert (place ++ [name]) (.file (.text text)) := by
  rw [writeText?, opens.place?_joinName isName] at written
  cases takes : takesName directory name with
  | false =>
    rw [takes] at written
    cases written
  | true =>
    simp only [takes, if_true] at written
    split at written
    · cases written
    · rename_i notDirectory
      cases written
      exact ⟨rfl, Bool.eq_false_iff.mpr notDirectory, rfl⟩

theorem Opens.removeFile?_joinName (opens : tree.Opens directory place)
    (isName : namesEntry name = true)
    (removed : tree.removeFile? (directory.joinName name) = some after) :
    (∃ content, tree.entry? (place ++ [name]) = some (.file content)) ∧
      after = tree.erase (place ++ [name]) := by
  rw [removeFile?, opens.place?_joinName isName] at removed
  cases takes : takesName directory name with
  | false =>
    rw [takes] at removed
    cases removed
  | true =>
    simp only [takes, if_true] at removed
    split at removed
    · rename_i content found
      cases removed
      exact ⟨⟨content, found⟩, rfl⟩
    · cases removed

/-! ## Listing -/

theorem Opens.list_eq (opens : tree.Opens directory place) (named : directory ≠ .empty) :
    tree.list directory = .ok (tree.names place) := by
  have led : tree.place? directory = .ok place := by
    rw [place?, opens.usable]
    simpa [named] using opens.follows
  rw [list, led]
  simp only [bind, Except.bind, fault?_eq_none_iff.mpr opens.isDirectory]
  rfl

theorem list_empty : tree.list .empty = .error .notFound := by
  have usable : isUsablePath .empty = true := by decide
  rw [list, place?, usable]
  rfl

/-! ## Making -/

theorem Opens.makeDirectory (rooted : tree.Rooted) (opens : tree.Opens directory place) :
    tree.makeDirectory directory = (true, tree) := by
  rw [FileTree.makeDirectory, if_pos opens.usable]
  exact makeAll_of_follow rooted opens.follows opens.isDirectory

theorem makeDirectory_eq_true (made : tree.makeDirectory directory = (true, after)) :
    isUsablePath directory = true ∧
      tree.makeAll (tree.start directory) directory.pieces = (true, after) := by
  rw [makeDirectory] at made
  split at made
  · rename_i usable
    exact ⟨usable, made⟩
  · cases made

theorem grows_makeDirectory : tree.Grows (tree.makeDirectory directory).2 := by
  rw [makeDirectory]
  split
  · exact grows_makeAll
  · exact .refl

theorem grows_of_makeDirectory (made : tree.makeDirectory directory = (true, after)) :
    tree.Grows after := by
  have grows : tree.Grows (tree.makeDirectory directory).2 := grows_makeDirectory
  rwa [made] at grows

theorem Rooted.isDirectory_start (rooted : tree.Rooted) (directory : FilePath) :
    tree.isDirectory (tree.start directory) = true := by
  rw [start]
  split
  · rfl
  · exact rooted.here

theorem Rooted.makeDirectory (rooted : tree.Rooted)
    (made : tree.makeDirectory directory = (true, after)) : after.Rooted :=
  rooted.makeAll (rooted.isDirectory_start directory) (makeDirectory_eq_true made).2

theorem exists_opens_of_makeDirectory (rooted : tree.Rooted)
    (made : tree.makeDirectory directory = (true, after)) :
    ∃ place, after.Opens directory place := by
  obtain ⟨usable, allMade⟩ := makeDirectory_eq_true made
  obtain ⟨place, follows, there⟩ :=
    follow_makeAll rooted (rooted.isDirectory_start directory) allMade
  have begins := start_eq (grows_of_makeDirectory made).here directory
  exact ⟨place, usable, by rwa [begins], there⟩

/-- A directory with a straight path was there before it was made, or it could not be listed and is
new and empty. -/
theorem makeDirectory_straight (rooted : tree.Rooted) (straight : ".." ∉ directory.pieces)
    (made : tree.makeDirectory directory = (true, after)) (opens : after.Opens directory place) :
    tree.Opens directory place ∨
      (¬∃ place, tree.Opens directory place) ∧ tree.list directory = .error .notFound ∧
        ∀ name, after.entry? (place ++ [name]) = none := by
  obtain ⟨usable, allMade⟩ := makeDirectory_eq_true made
  have begins := start_eq (grows_of_makeDirectory made).here directory
  rcases makeAll_straight rooted (rooted.isDirectory_start directory) straight allMade
    (begins ▸ opens.follows) with ⟨follows, here⟩ | ⟨astray, bare⟩
  · exact .inl ⟨usable, follows, here⟩
  · right
    refine ⟨?_, ?_, bare⟩
    · rintro ⟨other, opened⟩
      rcases astray with failed | ⟨missing, led, missing'⟩
      · have follows := opened.follows
        rw [failed] at follows
        cases follows
      · have follows := opened.follows
        rw [led] at follows
        cases follows
        have here := opened.isDirectory
        rw [isDirectory_iff, missing'] at here
        cases here
    · by_cases named : directory = .empty
      · rw [named]
        exact list_empty
      · rw [list, place?, usable]
        rcases astray with failed | ⟨missing, led, missing'⟩
        · simp [named, failed, bind, Except.bind]
        · simp [named, led, fault?, missing', bind, Except.bind]

end FileTree

end Wireform.Files
