import Mathlib.Tactic.IntervalCases
import Wireform.Syntax.Tree

/-! # Quoted texts

A text in quotes is read back as it was, whatever it holds: each character, escaped or not, takes a
reader between the quotes from where a character can begin to there again. -/

namespace Wireform.Syntax

open Wireform.Text

/-! ## Numbers of characters -/

theorem hexValue?_digitChar {digit : Nat} (small : digit < 16) :
    hexValue? (Nat.digitChar digit) = some digit := by
  interval_cases digit <;> decide

/-- The number that hexadecimal digits go on to from a value. -/
def hexNumber (value : Nat) (digits : List Char) : Nat :=
  digits.foldl (fun value digit => value * 16 + (hexValue? digit).getD 0) value

theorem hexNumber_toDigits (number : Nat) : hexNumber 0 (Nat.toDigits 16 number) = number := by
  induction number using Nat.strongRecOn with
  | _ number induction =>
    rw [Nat.toDigits_eq_if (by omega)]
    by_cases single : number < 16
    · rw [if_pos single]
      simp [hexNumber, hexValue?_digitChar single]
    · rw [if_neg single]
      have shorter := induction (number / 16) (by omega)
      have last := hexValue?_digitChar (Nat.mod_lt number (by omega : 16 > 0))
      rw [hexNumber] at shorter ⊢
      rw [List.foldl_append, shorter]
      simp only [List.foldl_cons, List.foldl_nil, last, Option.getD_some]
      omega

theorem hexValue?_of_mem_toDigits {number : Nat} {digit : Char}
    (among : digit ∈ Nat.toDigits 16 number) : ∃ value, hexValue? digit = some value := by
  induction number using Nat.strongRecOn with
  | _ number induction =>
    rw [Nat.toDigits_eq_if (by omega)] at among
    by_cases single : number < 16
    · rw [if_pos single] at among
      rw [List.mem_singleton.mp among]
      exact ⟨number, hexValue?_digitChar single⟩
    · rw [if_neg single] at among
      rcases List.mem_append.mp among with before | last
      · exact induction (number / 16) (by omega) before
      · rw [List.mem_singleton.mp last]
        exact ⟨number % 16, hexValue?_digitChar (Nat.mod_lt number (by omega))⟩

theorem length_toDigits_toNat (character : Char) :
    (Nat.toDigits 16 character.toNat).length ≤ 6 := by
  rw [Nat.length_toDigits_le_iff (by omega) (by omega)]
  have valid := character.valid
  rcases valid with low | ⟨-, high⟩
  · exact Nat.lt_trans low (by decide)
  · exact Nat.lt_trans high (by decide)

theorem isScalar_toNat (character : Char) : isScalar character.toNat = true := by
  rw [isScalar, Bool.or_eq_true, Bool.and_eq_true]
  simp only [decide_eq_true_iff]
  rcases character.valid with low | ⟨above, below⟩
  · exact .inl low
  · exact .inr ⟨above, below⟩

/-! ## Reading between quotes -/

/-- The letters stand for the character: a reader takes them all, and can take another character
after them. -/
structure StandsFor (letters : List Char) (character : Char) : Prop where
  measured : ∀ count rest, Quoting.text.closingLength .plain count (letters ++ rest) =
    Quoting.text.closingLength .plain (count + letters.length) rest
  meant : ∀ rest, unescape .plain (letters ++ rest) = character :: unescape .plain rest

theorem standsFor_plain {character : Char} (notQuote : character ≠ '"')
    (notReturn : character ≠ '\r') (notBackslash : character ≠ '\\') :
    StandsFor [character] character where
  measured count rest := by
    rw [List.singleton_append, Quoting.closingLength]
    simp [notQuote, Quoting.step, Quoting.stepPlain, notReturn, notBackslash, Quoting.text]
  meant rest := by
    rw [List.singleton_append, unescape]
    simp [notQuote, notReturn, notBackslash]

theorem ne_of_hexValue? {digit other : Char} {value : Nat} (hex : hexValue? digit = some value)
    (noHex : hexValue? other = none) : digit ≠ other := by
  rintro rfl
  rw [noHex] at hex
  cases hex

theorem closingLength_scalar {digits : List Char}
    (hex : ∀ digit ∈ digits, ∃ value, hexValue? digit = some value) {rest : List Char} :
    ∀ read value count : Nat, read + digits.length ≤ 6 →
      Quoting.text.closingLength (.scalar read value) count (digits ++ rest) =
        Quoting.text.closingLength (.scalar (read + digits.length) (hexNumber value digits))
          (count + digits.length) rest := by
  induction digits with
  | nil =>
    intro read value count _
    rfl
  | cons digit digits induction =>
    intro read value count fits
    obtain ⟨number, isHex⟩ := hex digit List.mem_cons_self
    have notUnderscore : digit ≠ '_' := ne_of_hexValue? isHex (by decide)
    have notBrace : digit ≠ '\x7d' := ne_of_hexValue? isHex (by decide)
    rw [List.length_cons] at fits
    have goesOn : Quoting.text.step (.scalar read value) digit =
        some (.scalar (read + 1) (value * 16 + number)) := by
      simp [Quoting.step, notUnderscore, notBrace, isHex]
      omega
    have behind := induction (fun later among => hex later (List.mem_cons_of_mem _ among))
      (read + 1) (value * 16 + number) (count + 1) (by omega)
    have sameRead : read + 1 + digits.length = read + (digits.length + 1) := by omega
    have sameCount : count + 1 + digits.length = count + (digits.length + 1) := by omega
    rw [List.cons_append, Quoting.closingLength, goesOn]
    simp only [Quoting.closes, Bool.and_false, Bool.false_eq_true, if_false, Option.bind_eq_bind,
      Option.bind_some]
    rw [behind, hexNumber, hexNumber, List.foldl_cons, isHex, Option.getD_some, List.length_cons,
      sameRead, sameCount]

theorem unescape_scalar {digits : List Char}
    (hex : ∀ digit ∈ digits, ∃ value, hexValue? digit = some value) {rest : List Char} :
    ∀ read value : Nat, unescape (.scalar read value) (digits ++ rest) =
      unescape (.scalar (read + digits.length) (hexNumber value digits)) rest := by
  induction digits with
  | nil =>
    intro read value
    rfl
  | cons digit digits induction =>
    intro read value
    obtain ⟨number, isHex⟩ := hex digit List.mem_cons_self
    have notUnderscore : digit ≠ '_' := ne_of_hexValue? isHex (by decide)
    have notBrace : digit ≠ '\x7d' := ne_of_hexValue? isHex (by decide)
    have behind := induction fun later among => hex later (List.mem_cons_of_mem _ among)
    have sameRead : read + 1 + digits.length = read + (digits.length + 1) := by omega
    rw [List.cons_append, unescape]
    simp only [notBrace, if_false, notUnderscore]
    rw [behind, hexNumber, hexNumber, List.foldl_cons, List.length_cons, sameRead]

theorem standsFor_scalar (character : Char) :
    StandsFor (['\\', 'u', '{'] ++ Nat.toDigits 16 character.toNat ++ ['\x7d']) character := by
  have hex (digit : Char) (among : digit ∈ Nat.toDigits 16 character.toNat) :
      ∃ value, hexValue? digit = some value := hexValue?_of_mem_toDigits among
  have short := length_toDigits_toNat character
  have notNone : (Nat.toDigits 16 character.toNat).length ≠ 0 :=
    Nat.ne_of_gt Nat.length_toDigits_pos
  constructor
  · intro count rest
    have opened : Quoting.text.closingLength .plain count
        (['\\', 'u', '{'] ++ Nat.toDigits 16 character.toNat ++ ['\x7d'] ++ rest) =
        Quoting.text.closingLength (.scalar 0 0) (count + 1 + 1 + 1)
          (Nat.toDigits 16 character.toNat ++ ('\x7d' :: rest)) := by
      simp only [List.append_assoc]
      rfl
    have closed (read : Nat) (digit : read ≠ 0) (count : Nat) :
        Quoting.text.closingLength (.scalar read character.toNat) count ('\x7d' :: rest) =
          Quoting.text.closingLength .plain (count + 1) rest := by
      rw [Quoting.closingLength]
      simp [Quoting.closes, Quoting.step, digit, Quoting.text, isScalar_toNat]
    rw [opened, closingLength_scalar hex 0 0 _ (by omega), hexNumber_toDigits, closed _ (by omega)]
    have same : count + 1 + 1 + 1 + (Nat.toDigits 16 character.toNat).length + 1 =
        count + (['\\', 'u', '{'] ++ Nat.toDigits 16 character.toNat ++ ['\x7d']).length := by
      simp only [List.length_append, List.length_cons, List.length_nil]
      omega
    rw [same]
  · intro rest
    have opened : unescape .plain
        (['\\', 'u', '{'] ++ Nat.toDigits 16 character.toNat ++ ['\x7d'] ++ rest) =
        unescape (.scalar 0 0) (Nat.toDigits 16 character.toNat ++ ('\x7d' :: rest)) := by
      simp only [List.append_assoc]
      rfl
    rw [opened, unescape_scalar hex 0 0, hexNumber_toDigits, unescape]
    simp

theorem standsFor_quotedCharacter (character : Char) (rest : List Char) :
    StandsFor (quotedCharacter character rest) character := by
  unfold quotedCharacter
  split
  · split
    · exact ⟨fun _ _ => rfl, fun _ => rfl⟩
    · exact ⟨fun _ _ => rfl, fun _ => rfl⟩
  · exact ⟨fun _ _ => rfl, fun _ => rfl⟩
  · exact ⟨fun _ _ => rfl, fun _ => rfl⟩
  · exact ⟨fun _ _ => rfl, fun _ => rfl⟩
  · exact ⟨fun _ _ => rfl, fun _ => rfl⟩
  · exact ⟨fun _ _ => rfl, fun _ => rfl⟩
  · rename_i notReturn _ notQuote notBackslash
    split
    · exact standsFor_scalar character
    · exact standsFor_plain notQuote notReturn notBackslash

theorem closingLength_quotedCharacters (text rest : List Char) (count : Nat) :
    Quoting.text.closingLength .plain count (quotedCharacters text ++ '"' :: rest) =
      some (count + (quotedCharacters text).length + 1) := by
  induction text generalizing count with
  | nil => rfl
  | cons first text induction =>
    rw [quotedCharacters, List.append_assoc, (standsFor_quotedCharacter first text).measured,
      induction, List.length_append, Nat.add_assoc count]

theorem unescape_quotedCharacters (text rest : List Char) :
    unescape .plain (quotedCharacters text ++ '"' :: rest) = text := by
  induction text with
  | nil => rfl
  | cons first text induction =>
    rw [quotedCharacters, List.append_assoc, (standsFor_quotedCharacter first text).meant,
      induction]

/-! ## Literals -/

theorem toList_sourceQuoted (text : String) :
    (sourceQuoted text).toList = '"' :: (quotedCharacters text.toList ++ ['"']) := by
  rw [sourceQuoted, String.toList_ofList]
  rfl

/-- A text in quotes is one literal, unless a word that follows would be its suffix. -/
theorem literalLength_sourceQuoted (text : String) {rest : List Char}
    (apart : wordLength rest = 0) :
    literalLength ((sourceQuoted text).toList ++ rest) =
      some (.text, (sourceQuoted text).toList.length) := by
  have drop : ((sourceQuoted text).toList ++ rest).drop (sourceQuoted text).toList.length = rest :=
    List.drop_left
  have length : 1 + (0 + (quotedCharacters text.toList).length + 1) =
      (sourceQuoted text).toList.length := by
    rw [toList_sourceQuoted]
    simp only [List.length_cons, List.length_append, List.length_nil]
    omega
  have closes : Quoting.text.closingLength .plain 0
      (((sourceQuoted text).toList ++ rest).drop 1) =
        some (0 + (quotedCharacters text.toList).length + 1) := by
    rw [toList_sourceQuoted]
    simp only [List.cons_append, List.drop_succ_cons, List.drop_zero, List.append_assoc]
    exact closingLength_quotedCharacters text.toList rest 0
  have opened : literalLength ((sourceQuoted text).toList ++ rest) =
      (openedLength ((sourceQuoted text).toList ++ rest) 1
        (Quoting.text.closingLength .plain 0)).map fun length => (.text, length) := by
    rw [toList_sourceQuoted]
    rfl
  rw [opened, openedLength, closes]
  simp only [Option.map_some, length, suffixed, drop, apart, Nat.add_zero]

/-- A literal stands for the text that was quoted. -/
theorem text?_sourceQuoted (text : String) :
    Literal.text? ⟨.text, sourceQuoted text⟩ = some text := by
  have read : Literal.text? ⟨.text, sourceQuoted text⟩ =
      some (String.ofList (unescape .plain (quotedCharacters text.toList ++ ['"']))) := by
    rw [Literal.text?, toList_sourceQuoted]
    rfl
  rw [read, unescape_quotedCharacters, String.ofList_toList]

end Wireform.Syntax
