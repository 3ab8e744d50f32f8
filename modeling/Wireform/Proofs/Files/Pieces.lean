import Wireform.Proofs.Files.Directory

/-! # Pieces of paths

Which pieces a path has after something is looked up in it, and which are left without its last one
or without an extension. -/

namespace Wireform.Files.FilePath

variable {directory other path : FilePath} {name : String} {pieces : List String}

/-! ## Looking up -/

theorem join_eq (relative : path.isAbsolute = false) :
    directory.join path = ⟨directory.stemPieces ++ path.pieces⟩ := by
  rw [join, relative, Bool.false_or, stemPieces]
  by_cases none : directory = empty
  · subst none
    rfl
  · rw [if_neg (by simpa using none)]
    split <;> rfl

/-- A relative path keeps the directories apart that it is looked up in. -/
theorem join_eq_join_iff :
    directory.join path = other.join path ↔
      path.isAbsolute = true ∨ directory.stemPieces = other.stemPieces := by
  cases absolute : path.isAbsolute with
  | true => simp [join, absolute]
  | false => simp [join_eq absolute]

theorem stemPieces_joinName (notEmpty : name ≠ "") :
    (directory.joinName name).stemPieces = directory.stemPieces ++ [name] := by
  rw [joinName_eq, stemPieces, if_neg (by simpa using notEmpty)]

theorem stemPieces_foldl_joinName {names : List String} (notEmpty : ∀ name ∈ names, name ≠ "") :
    (names.foldl joinName directory).stemPieces = directory.stemPieces ++ names := by
  induction names generalizing directory with
  | nil => simp
  | cons name rest induction =>
    rcases List.forall_mem_cons.mp notEmpty with ⟨named, restNamed⟩
    rw [List.foldl_cons, induction restNamed, stemPieces_joinName named, List.append_assoc,
      List.singleton_append]

theorem length_stemPieces_le : directory.stemPieces.length ≤ directory.pieces.length := by
  rw [stemPieces]
  split
  · rw [List.length_dropLast]
    omega
  · exact Nat.le_refl _

theorem le_length_stemPieces : directory.pieces.length - 1 ≤ directory.stemPieces.length := by
  rw [stemPieces]
  split
  · exact Nat.le_of_eq List.length_dropLast.symm
  · exact Nat.sub_le _ _

/-! ## Last pieces -/

theorem length_trimmed_le (pieces : List String) : (trimmed pieces).length ≤ pieces.length := by
  cases pieces with
  | nil => exact Nat.le_refl 0
  | cons first rest =>
    have fewer := (rest.reverse.dropWhile_sublist fun piece => piece = "" || piece = ".").length_le
    rw [List.length_reverse] at fewer
    rw [trimmed, List.length_cons, List.length_cons, List.length_reverse]
    exact Nat.add_le_add_right fewer 1

theorem trimmed_concat (isName : namesEntry name = true) :
    trimmed (pieces ++ [name]) = pieces ++ [name] := by
  rcases namesEntry_iff.mp isName with ⟨notEmpty, notHere, -⟩
  cases pieces with
  | nil => rfl
  | cons first rest => simp [trimmed, notEmpty, notHere]

theorem directory_of_length_le (short : (trimmed path.pieces).length ≤ 1) :
    path.directory = empty := by
  rw [FilePath.directory, parent?]
  split
  · rfl
  · rfl
  · rfl
  · rename_i none root more
    cases parts : trimmed path.pieces with
    | nil => exact absurd parts none
    | cons piece rest =>
      rw [parts] at short
      cases rest with
      | nil => exact absurd parts (more piece)
      | cons => simp at short

theorem directory_of_lt_length (long : 1 < (trimmed path.pieces).length) :
    path.directory =
      if trimmed (trimmed path.pieces).dropLast = [""] then ⟨["", ""]⟩
      else ⟨trimmed (trimmed path.pieces).dropLast⟩ := by
  rw [FilePath.directory, parent?]
  split
  · simp_all
  · simp_all
  · simp_all
  · split <;> simp_all

/-- The directory of a path has fewer pieces than its file name without an extension. -/
theorem length_stemPieces_directory_le (path : FilePath) :
    path.directory.stemPieces.length ≤ path.withoutExtension.stemPieces.length := by
  have above : path.directory.stemPieces.length ≤ (trimmed path.pieces).length - 1 := by
    by_cases short : (trimmed path.pieces).length ≤ 1
    · rw [directory_of_length_le short]
      exact Nat.zero_le _
    · rw [directory_of_lt_length (by omega)]
      have fewer := length_trimmed_le (trimmed path.pieces).dropLast
      rw [List.length_dropLast] at fewer
      split
      · have one : (stemPieces ⟨["", ""]⟩).length = 1 := rfl
        omega
      · exact Nat.le_trans length_stemPieces_le fewer
  have kept : (trimmed path.pieces).length - 1 ≤ path.withoutExtension.stemPieces.length := by
    apply Nat.le_trans _ le_length_stemPieces
    rw [withoutExtension]
    cases path.fileName? with
    | none => exact Nat.sub_le_sub_right (length_trimmed_le path.pieces) 1
    | some name => simp
  exact Nat.le_trans above kept

theorem stem_append_rs (notEmpty : name ≠ "") : stem (name ++ ".rs") = name := by
  have letters : name.toList.reverse ≠ [] := by simpa using notEmpty
  have behind :
      (name ++ ".rs").toList.reverse.dropWhile (· ≠ '.') = '.' :: name.toList.reverse := by
    simp
  rw [stem, behind]
  cases reversed : name.toList.reverse with
  | nil => exact absurd reversed letters
  | cons letter rest =>
    change String.ofList (letter :: rest).reverse = name
    rw [← reversed, List.reverse_reverse, String.ofList_toList]

theorem fileName?_concat (isName : namesEntry name = true) :
    fileName? ⟨pieces ++ [name]⟩ = some name := by
  rcases namesEntry_iff.mp isName with ⟨notEmpty, notHere, notUp⟩
  simp [fileName?, trimmed_concat isName, notEmpty, notHere, notUp]

theorem fileName?_joinName (isName : namesEntry name = true) :
    (directory.joinName name).fileName? = some name := by
  rw [joinName_eq]
  exact fileName?_concat isName

theorem namesEntry_append_rs (name : String) : namesEntry (name ++ ".rs") = true := by
  have longer (other : String) (short : other.toList.length ≤ 2) : name ++ ".rs" ≠ other := by
    rintro rfl
    rw [String.toList_append, List.length_append] at short
    have ending : (".rs" : String).toList.length = 3 := by decide
    omega
  exact namesEntry_iff.mpr
    ⟨longer "" (by decide), longer "." (by decide), longer ".." (by decide)⟩

theorem withoutExtension_joinName (notEmpty : name ≠ "") :
    (directory.joinName (name ++ ".rs")).withoutExtension = directory.joinName name := by
  have isName := namesEntry_append_rs name
  rw [withoutExtension, fileName?_joinName isName, joinName_eq, joinName_eq]
  simp only [trimmed_concat isName, List.dropLast_concat, stem_append_rs notEmpty]

theorem directory_joinName_joinName {last : String} (isName : namesEntry name = true)
    (isLast : namesEntry last = true) :
    ((directory.joinName name).joinName last).directory = directory.joinName name := by
  have notEmpty := (namesEntry_iff.mp isName).1
  rw [joinName_eq, stemPieces_joinName notEmpty, joinName_eq]
  have pieces : trimmed (directory.stemPieces ++ [name] ++ [last]) =
      directory.stemPieces ++ [name] ++ [last] := trimmed_concat isLast
  have long : 1 < (trimmed (directory.stemPieces ++ [name] ++ [last])).length := by
    rw [pieces, List.length_append, List.length_append, List.length_singleton,
      List.length_singleton]
    omega
  rw [directory_of_lt_length long]
  simp only [pieces, List.dropLast_concat, trimmed_concat isName]
  apply if_neg
  intro same
  have same := congrArg List.getLast? same
  rw [List.getLast?_concat] at same
  exact notEmpty (Option.some.inj same)

end Wireform.Files.FilePath
