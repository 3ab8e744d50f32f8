import Mathlib.Data.Nat.Digits.Defs
import Mathlib.Data.String.Basic
import Wireform.Files.Tree

/-! # Counting paths

A path that can be followed is no longer than `longestPath`, so that there are fewer such paths than
`pathLimit`. Each has a number of its own below it. -/

namespace Wireform.Files

namespace FilePath

/-- The letters of a path, with an end after every piece. -/
def letters (path : FilePath) : List (Option Char) :=
  path.pieces.flatMap fun piece => piece.toList.map some ++ [none]

/-- The digit for a letter, or for the end of a piece. No digit is zero, so that no number has fewer
digits than its path has letters. -/
def digit : Option Char → Nat
  | none => 1
  | some letter => letter.toNat + 2

def number (path : FilePath) : Nat := Nat.ofDigits 0x110002 (path.letters.map digit)

theorem digit_ne_zero (letter : Option Char) : digit letter ≠ 0 := by
  cases letter <;> simp [digit]

theorem toNat_lt (letter : Char) : letter.toNat < 0x110000 := by
  rcases letter.valid with below | ⟨-, below⟩
  · exact Nat.lt_trans below (by decide)
  · exact below

theorem digit_lt (letter : Option Char) : digit letter < 0x110002 := by
  cases letter with
  | none => decide
  | some letter => exact Nat.add_lt_add_right (toNat_lt letter) 2

theorem digit_injective : Function.Injective digit := by
  intro first second same
  cases first with
  | none =>
    cases second with
    | none => rfl
    | some letter => exact absurd same (by simp only [digit]; omega)
  | some letter =>
    cases second with
    | none => exact absurd same (by simp only [digit]; omega)
    | some other => rw [Char.toNat_inj.mp (Nat.add_right_cancel same)]

theorem letters_cons (piece : String) (rest : List String) :
    letters ⟨piece :: rest⟩ = piece.toList.map some ++ none :: letters ⟨rest⟩ := by
  rw [letters, letters, List.flatMap_cons, List.append_assoc, List.singleton_append]

/-- Splitting at the ends gives the pieces back. -/
theorem splitOnP_letters (path : FilePath) :
    path.letters.splitOnP Option.isNone = path.pieces.map (·.toList.map some) ++ [[]] := by
  obtain ⟨pieces⟩ := path
  induction pieces with
  | nil => rfl
  | cons piece rest induction =>
    have unended : ∀ letter ∈ piece.toList.map some, Option.isNone letter = false := by
      intro letter among
      obtain ⟨letter, -, rfl⟩ := List.mem_map.mp among
      rfl
    rw [letters_cons, List.splitOnP_append_cons_of_forall_mem unended none rfl, induction]
    rfl

theorem letters_injective : Function.Injective letters := by
  intro first second same
  have split := congrArg (List.splitOnP Option.isNone) same
  rw [splitOnP_letters, splitOnP_letters] at split
  have written : Function.Injective fun piece : String => piece.toList.map some := fun _ _ same =>
    String.toList_injective (List.map_injective_iff.mpr (Option.some_injective _) same)
  have pieces := List.map_injective_iff.mpr written (List.append_cancel_right split)
  cases first
  cases second
  exact congrArg FilePath.mk pieces

theorem number_injective : Function.Injective number := by
  have digits (path : FilePath) : Nat.digits 0x110002 path.number = path.letters.map digit := by
    apply Nat.digits_ofDigits _ (by decide)
    · intro value among
      obtain ⟨letter, -, rfl⟩ := List.mem_map.mp among
      exact digit_lt letter
    · intro notEmpty zero
      obtain ⟨letter, -, same⟩ := List.mem_map.mp (List.getLast_mem notEmpty)
      exact digit_ne_zero letter (same.trans zero)
  intro first second same
  apply letters_injective
  apply List.map_injective_iff.mpr digit_injective
  rw [← digits, ← digits, same]

/-! ## Lengths -/

theorem length_le_utf8ByteSize (text : String) : text.toList.length ≤ text.utf8ByteSize := by
  have bytes (letters : List Char) : letters.length ≤ String.utf8Len letters := by
    induction letters with
    | nil => exact Nat.le_refl 0
    | cons letter rest induction => exact Nat.add_le_add induction letter.utf8Size_pos
  calc text.toList.length ≤ String.utf8Len text.toList := bytes text.toList
    _ = (String.ofList text.toList).utf8ByteSize := (String.utf8ByteSize_ofList _).symm
    _ = text.utf8ByteSize := by rw [String.ofList_toList]

theorem length_letters_le (path : FilePath) :
    path.letters.length ≤ path.text.utf8ByteSize + 1 := by
  obtain ⟨pieces⟩ := path
  induction pieces with
  | nil => exact Nat.zero_le _
  | cons piece rest induction =>
    have own := length_le_utf8ByteSize piece
    have parts :
        (letters ⟨piece :: rest⟩).length = piece.toList.length + 1 + (letters ⟨rest⟩).length := by
      rw [letters_cons, List.length_append, List.length_map, List.length_cons]
      omega
    cases rest with
    | nil =>
      have single : text ⟨[piece]⟩ = piece := String.intercalate_singleton
      rw [parts, single]
      exact Nat.add_le_add_right own 1
    | cons second rest =>
      have joined : text ⟨piece :: second :: rest⟩ = piece ++ "/" ++ text ⟨second :: rest⟩ :=
        String.intercalate_cons_cons
      have slash : ("/" : String).utf8ByteSize = 1 := by decide
      rw [parts, joined, String.utf8ByteSize_append, String.utf8ByteSize_append, slash]
      omega

theorem number_lt_pow {path : FilePath} {limit : Nat} (short : path.text.utf8ByteSize ≤ limit) :
    path.number < Nat.pow 0x110002 (limit + 1) := by
  have digits : ∀ value ∈ path.letters.map digit, value < 0x110002 := by
    intro value among
    obtain ⟨letter, -, rfl⟩ := List.mem_map.mp among
    exact digit_lt letter
  have long : (path.letters.map digit).length ≤ limit + 1 := by
    rw [List.length_map]
    exact Nat.le_trans path.length_letters_le (Nat.add_le_add_right short 1)
  exact Nat.lt_of_lt_of_le (Nat.ofDigits_lt_base_pow_length (by decide) digits)
    (Nat.pow_le_pow_right (by decide) long)

end FilePath

theorem number_lt_pathLimit {path : FilePath} (usable : isUsablePath path = true) :
    path.number < pathLimit := by
  rw [isUsablePath, Bool.and_eq_true] at usable
  unfold pathLimit
  exact FilePath.number_lt_pow (of_decide_eq_true usable.1)

end Wireform.Files
