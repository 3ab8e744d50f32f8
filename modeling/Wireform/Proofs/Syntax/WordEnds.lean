import Mathlib.Data.List.TakeWhile
import Wireform.Syntax.Literal

/-! # Ends of words and quoted literals

How long a word or a literal is depends only on the characters that it takes, as long as something
stands behind it that no word can go on with. So a token that is written anew, between other
neighbours, is read back as it was. -/

namespace Wireform.Syntax

open Wireform.Text

/-- What stands behind a token that is written anew: nothing, a blank, or the end of a group. -/
def Breaks (behind : List Char) : Prop := ∀ first ∈ behind.head?, first ∈ [' ', ')', ']']

/-- No word that ends here goes on behind. -/
def EndsWord (behind : List Char) : Prop :=
  ∀ first ∈ behind.head?, continuesIdentifier first = false

theorem EndsWord.any_eq_false {behind : List Char} (ends : EndsWord behind) :
    behind.head?.any continuesIdentifier = false := by
  cases behind with
  | nil => rfl
  | cons first rest => exact ends first rfl

theorem Breaks.nil : Breaks [] := by simp [Breaks]

theorem Breaks.cons {first : Char} (among : first ∈ [' ', ')', ']']) (rest : List Char) :
    Breaks (first :: rest) := by
  simpa [Breaks] using among

theorem Breaks.endsWord {behind : List Char} (breaks : Breaks behind) : EndsWord behind := by
  intro first isFirst
  have none : [' ', ')', ']'].any continuesIdentifier = false := by decide
  exact eq_false_of_ne_true (List.any_eq_false.mp none first (breaks first isFirst))

/-! ## Characters of words -/

theorem continuesIdentifier_of_isDigit {character : Char} (digit : character.isDigit = true) :
    continuesIdentifier character = true := by
  have small : character.toNat < 128 := by
    simp only [Char.isDigit, Bool.and_eq_true, decide_eq_true_eq, UInt32.le_iff_toNat_le] at digit
    change 48 ≤ character.toNat ∧ character.toNat ≤ 57 at digit
    omega
  simp [continuesIdentifier, small, Char.isAlphanum, digit]

theorem isAlpha_iff {character : Char} : character.isAlpha = true ↔
    65 ≤ character.toNat ∧ character.toNat ≤ 90 ∨ 97 ≤ character.toNat ∧ character.toNat ≤ 122 := by
  have ranges : character.isAlpha = (decide (65 ≤ character.val ∧ character.val ≤ 90) ||
      decide (97 ≤ character.val) && decide (character.val ≤ 122)) := rfl
  simp only [ranges, Bool.or_eq_true, Bool.and_eq_true, decide_eq_true_eq, UInt32.le_iff_toNat_le]
  rfl

theorem isDigit_of_startsIdentifier {character : Char} (starts : startsIdentifier character = true) :
    character.isDigit = false := by
  apply Bool.eq_false_iff.mpr
  intro digit
  simp only [Char.isDigit, Bool.and_eq_true, decide_eq_true_eq, UInt32.le_iff_toNat_le] at digit
  change 48 ≤ character.toNat ∧ character.toNat ≤ 57 at digit
  have small : character.toNat < 128 := by omega
  rw [startsIdentifier, if_pos small, Bool.or_eq_true, decide_eq_true_eq] at starts
  rcases starts with alpha | rfl
  · rw [isAlpha_iff] at alpha
    omega
  · revert digit
    decide

theorem continuesIdentifier_of_hexValue? {character : Char} {value : Nat}
    (hex : hexValue? character = some value) : continuesIdentifier character = true := by
  rw [hexValue?] at hex
  by_cases digit : character.isDigit = true
  · exact continuesIdentifier_of_isDigit digit
  · have letter : 'a' ≤ character ∧ character ≤ 'f' ∨ 'A' ≤ character ∧ character ≤ 'F' := by
      apply Classical.byContradiction
      intro neither
      rw [not_or] at neither
      simp [digit, neither.1, neither.2] at hex
    simp only [Char.le_def, UInt32.le_iff_toNat_le] at letter
    change 97 ≤ character.toNat ∧ character.toNat ≤ 102 ∨
      65 ≤ character.toNat ∧ character.toNat ≤ 70 at letter
    have small : character.toNat < 128 := by omega
    have alpha : character.isAlpha = true := isAlpha_iff.mpr (by omega)
    simp [continuesIdentifier, small, Char.isAlphanum, alpha]

theorem continuesIdentifier_of_mem {word : List Char} (identifier : isIdentifierText word = true) :
    ∀ letter ∈ word, continuesIdentifier letter = true := by
  cases word with
  | nil => cases identifier
  | cons first rest =>
    rw [isIdentifierText, Bool.and_eq_true, List.all_eq_true] at identifier
    exact List.forall_mem_cons.mpr
      ⟨continuesIdentifier_of_startsIdentifier first identifier.1, identifier.2⟩

theorem EndsWord.wordLength {behind : List Char} (ends : EndsWord behind) :
    wordLength behind = 0 := by
  cases behind with
  | nil => rfl
  | cons first rest =>
    have noStart : startsIdentifier first ≠ true := by
      intro starts
      have goesOn := continuesIdentifier_of_startsIdentifier first starts
      rw [ends first rfl] at goesOn
      cases goesOn
    rw [Syntax.wordLength, if_neg noStart]

theorem takeWhile_append_of_stops {holds : Char → Bool} (run : List Char) {behind : List Char}
    (stops : ∀ first ∈ behind.head?, holds first = false) :
    (run ++ behind).takeWhile holds = run.takeWhile holds := by
  induction run with
  | nil =>
    cases behind with
    | nil => rfl
    | cons first rest => simp [stops first rfl]
  | cons head tail induction => cases goesOn : holds head <;> simp [goesOn, induction]

theorem EndsWord.takeWhile_append {word behind : List Char} (ends : EndsWord behind)
    (all : ∀ letter ∈ word, continuesIdentifier letter = true) :
    (word ++ behind).takeWhile continuesIdentifier = word := by
  rw [takeWhile_append_of_stops word ends, List.takeWhile_eq_self_iff.mpr all]

/-- A word is as long as it is, whatever no word goes on with stands behind it. -/
theorem EndsWord.wordLength_append {word behind : List Char} (ends : EndsWord behind)
    (identifier : isIdentifierText word = true) : Syntax.wordLength (word ++ behind) = word.length := by
  cases word with
  | nil => cases identifier
  | cons first rest =>
    rw [isIdentifierText, Bool.and_eq_true, List.all_eq_true] at identifier
    rw [List.cons_append, Syntax.wordLength, if_pos identifier.1, ends.takeWhile_append identifier.2,
      List.length_cons]

theorem exists_wordLength (letters : List Char) :
    ∃ word behind, letters = word ++ behind ∧ wordLength letters = word.length ∧
      (word = [] ∨ isIdentifierText word = true ∧ EndsWord behind) := by
  cases letters with
  | nil => exact ⟨[], [], rfl, rfl, .inl rfl⟩
  | cons first rest =>
    by_cases starts : startsIdentifier first = true
    · refine ⟨first :: rest.takeWhile continuesIdentifier, rest.dropWhile continuesIdentifier,
        by simp, by rw [wordLength, if_pos starts, List.length_cons], .inr ⟨?_, ?_⟩⟩
      · rw [isIdentifierText, Bool.and_eq_true, List.all_eq_true]
        exact ⟨starts, fun letter among => List.mem_takeWhile_imp among⟩
      · intro next isNext
        have stops := List.head?_dropWhile_not continuesIdentifier rest
        rw [Option.mem_def.mp isNext] at stops
        simpa using stops
    · exact ⟨[], first :: rest, rfl, by rw [wordLength, if_neg starts]; rfl, .inl rfl⟩

/-! ## Quoted literals -/

/-- What is measured ends by itself: it is measured alike, whatever stands behind it. -/
def EndsItself (measure : List Char → Option Nat) : Prop :=
  ∀ letters length, measure letters = some length →
    ∃ front behind, letters = front ++ behind ∧ length = front.length ∧
      ∀ other, measure (front ++ other) = some length

namespace Quoting

variable {quoting : Quoting}

theorem closingLength_front {letters : List Char} {state : QuoteState} {count length : Nat}
    (closes : quoting.closingLength state count letters = some length) :
    ∃ front behind, letters = front ++ behind ∧ length = count + front.length ∧
      ∀ other, quoting.closingLength state count (front ++ other) = some length := by
  induction letters generalizing state count with
  | nil => cases closes
  | cons letter rest induction =>
    rw [closingLength] at closes
    split at closes
    · rename_i ends
      cases closes
      refine ⟨[letter], rest, rfl, rfl, fun other => ?_⟩
      rw [List.singleton_append, closingLength, if_pos ends]
    · rename_i goesOn
      obtain ⟨next, steps, closes⟩ := Option.bind_eq_some_iff.mp closes
      obtain ⟨front, behind, rfl, same, closesAlike⟩ := induction closes
      refine ⟨letter :: front, behind, rfl, by rw [same, List.length_cons]; omega, fun other => ?_⟩
      rw [List.cons_append, closingLength, if_neg goesOn, steps]
      exact closesAlike other

theorem closingLength_endsItself : EndsItself (quoting.closingLength .plain 0) := by
  intro letters length closes
  obtain ⟨front, behind, split, same, closesAlike⟩ := closingLength_front closes
  exact ⟨front, behind, split, by rw [same, Nat.zero_add], closesAlike⟩

theorem unitLength_front {letters : List Char} {state : QuoteState} {count length : Nat}
    (ends : quoting.unitLength state count letters = some length) :
    ∃ front behind, letters = front ++ behind ∧ front ≠ [] ∧ length = count + front.length ∧
      ∀ other, quoting.unitLength state count (front ++ other) = some length := by
  induction letters generalizing state count with
  | nil => cases ends
  | cons letter rest induction =>
    rw [unitLength] at ends
    obtain ⟨next, steps, ends⟩ := Option.bind_eq_some_iff.mp ends
    by_cases last : next = .plain
    · rw [if_pos last] at ends
      cases ends
      refine ⟨[letter], rest, rfl, List.cons_ne_nil _ _, rfl, fun other => ?_⟩
      rw [List.singleton_append, unitLength, steps]
      exact if_pos last
    · rw [if_neg last] at ends
      obtain ⟨front, behind, rfl, -, same, endsAlike⟩ := induction ends
      refine ⟨letter :: front, behind, rfl, List.cons_ne_nil _ _,
        by rw [same, List.length_cons]; omega, fun other => ?_⟩
      rw [List.cons_append, unitLength, steps]
      exact (if_neg last).trans (endsAlike other)

end Quoting

theorem Quoting.characterUnit_endsItself {quoting : Quoting} :
    EndsItself quoting.characterUnit := by
  intro letters length measured
  unfold characterUnit at measured
  split at measured
  · cases measured
  · cases measured
  · cases measured
  · rename_i rest noFeed noReturn
    obtain ⟨front, behind, rfl, notEmpty, same, endsAlike⟩ := unitLength_front measured
    obtain ⟨second, front, rfl⟩ := List.exists_cons_of_ne_nil notEmpty
    refine ⟨'\\' :: second :: front, behind, rfl, by simpa [Nat.add_comm] using same,
      fun other => ?_⟩
    rw [List.cons_append, characterUnit]
    · exact endsAlike other
    · intro tail same
      exact noFeed (front ++ behind) (congrArg (· :: _) (List.cons.inj same).1)
    · intro tail same
      exact noReturn (front ++ behind) (congrArg (· :: _) (List.cons.inj same).1)
  · rename_i character rest _ _ noEscape
    split at measured
    · rename_i admitted
      cases measured
      refine ⟨[character], rest, rfl, rfl, fun other => ?_⟩
      rw [List.singleton_append, characterUnit, if_pos admitted]
      · exact fun _ same _ => noEscape same
      · exact fun _ same _ => noEscape same
      · exact noEscape
    · cases measured

theorem characterLength_endsItself (quoting : Quoting) : EndsItself (characterLength quoting) := by
  intro letters length measured
  obtain ⟨unit, taken, closes⟩ := Option.bind_eq_some_iff.mp measured
  obtain ⟨front, behind, rfl, rfl, takenAlike⟩ := Quoting.characterUnit_endsItself _ _ taken
  rw [List.drop_left] at closes
  split at closes
  · rename_i quote
    obtain ⟨rest, rfl⟩ := List.head?_eq_some_iff.mp quote
    obtain rfl := Option.some.inj closes
    refine ⟨front ++ ['\''], rest, by simp, by simp, fun other => ?_⟩
    rw [characterLength, List.append_assoc, takenAlike]
    simp
  · cases closes

/-! ## Raw texts -/

theorem takeWhile_append_congr {α : Type} {holds : α → Bool} {front behind : List α} (other : List α)
    (within : ((front ++ behind).takeWhile holds).length < front.length) :
    (front ++ other).takeWhile holds = (front ++ behind).takeWhile holds := by
  rw [List.takeWhile_append] at within ⊢
  rw [List.takeWhile_append]
  split
  · rename_i all
    rw [if_pos all, List.length_append] at within
    omega
  · rfl

/-- Signs at the front are the same number of signs, whatever stands behind. -/
theorem length_takeWhile_take {signs : Nat} {rest : List Char} (other : List Char)
    (enough : (rest.takeWhile (· = '#')).length ≥ signs) :
    (rest.take signs).length = signs ∧
      ((rest.take signs ++ other).takeWhile (· = '#')).length ≥ signs := by
  have prefixed : rest.take signs = (rest.takeWhile (· = '#')).take signs := by
    calc rest.take signs
        = (rest.takeWhile (· = '#') ++ rest.dropWhile (· = '#')).take signs := by
          rw [List.takeWhile_append_dropWhile]
      _ = _ := List.take_append_of_le_length enough
  have all : ∀ letter ∈ rest.take signs, decide (letter = '#') = true := by
    intro letter among
    rw [prefixed] at among
    exact List.mem_takeWhile_imp (p := fun letter => letter = '#') (List.mem_of_mem_take among)
  have length : (rest.take signs).length = signs := by
    rw [prefixed, List.length_take]
    omega
  refine ⟨length, ?_⟩
  rw [List.takeWhile_append_of_pos all, List.length_append, length]
  omega

theorem rawClosingLength_front {admits : Char → Bool} {signs : Nat} {letters : List Char}
    {count length : Nat} (closes : rawClosingLength admits signs count letters = some length) :
    ∃ front behind, letters = front ++ behind ∧ length = count + front.length ∧
      (letters.takeWhile (· = '#')).length < front.length ∧
      ∀ other, rawClosingLength admits signs count (front ++ other) = some length := by
  fun_induction rawClosingLength admits signs count letters with
  | case1 => cases closes
  | case2 count rest enough =>
    obtain rfl := Option.some.inj closes
    have taken := (length_takeWhile_take [] enough).1
    refine ⟨'"' :: rest.take signs, rest.drop signs, by simp, by simp [taken]; omega, by simp,
      fun other => ?_⟩
    rw [List.cons_append, rawClosingLength, if_pos (length_takeWhile_take other enough).2]
  | case3 count rest few induction =>
    obtain ⟨front, behind, rfl, same, within, closesAlike⟩ := induction closes
    refine ⟨'"' :: front, behind, rfl, by simp [same]; omega, by simp, fun other => ?_⟩
    rw [List.cons_append, rawClosingLength, takeWhile_append_congr other within, if_neg few]
    exact closesAlike other
  | case4 count rest induction =>
    obtain ⟨front, behind, rfl, same, -, closesAlike⟩ := induction closes
    refine ⟨'\r' :: '\n' :: front, behind, rfl, by simp [same]; omega, by simp, fun other => ?_⟩
    rw [List.cons_append, List.cons_append, rawClosingLength]
    exact closesAlike other
  | case5 count letter rest noQuote noReturn admitted induction =>
    obtain ⟨front, behind, rfl, same, within, closesAlike⟩ := induction closes
    refine ⟨letter :: front, behind, rfl, by simp [same]; omega, ?_, fun other => ?_⟩
    · rw [List.takeWhile_cons]
      split
      · simpa using within
      · simp
    · rw [List.cons_append, rawClosingLength, if_pos admitted]
      · exact closesAlike other
      · exact noQuote
      · rintro tail rfl -
        simp at admitted
  | case6 => cases closes

theorem drop_length_takeWhile {α : Type} (holds : α → Bool) (list : List α) :
    list.drop (list.takeWhile holds).length = list.dropWhile holds := by
  induction list with
  | nil => rfl
  | cons head tail induction =>
    by_cases goesOn : holds head = true
    · simp [goesOn, induction]
    · simp [goesOn]

theorem rawLength_append {signs : List Char} (all : ∀ sign ∈ signs, decide (sign = '#') = true)
    (admits : Char → Bool) (rest : List Char) :
    rawLength admits (signs ++ '"' :: rest) =
      if signs.length ≤ maxRawSigns then
        rawClosingLength admits signs.length (signs.length + 1) rest
      else none := by
  have taken : (signs ++ '"' :: rest).takeWhile (· = '#') = signs := by
    rw [List.takeWhile_append_of_pos all]
    simp
  rw [rawLength, taken, List.drop_left]
  rfl

theorem rawLength_endsItself (admits : Char → Bool) : EndsItself (rawLength admits) := by
  intro letters length measured
  have whole := List.takeWhile_append_dropWhile (p := (· = '#')) (l := letters)
  have all : ∀ sign ∈ letters.takeWhile (· = '#'), decide (sign = '#') = true :=
    fun sign among => List.mem_takeWhile_imp (p := fun letter => letter = '#') among
  dsimp only [rawLength] at measured
  rw [drop_length_takeWhile] at measured
  split at measured
  · rename_i rest opens
    rw [opens] at whole
    generalize letters.takeWhile (· = '#') = signs at whole all measured
    split at measured
    · rename_i few
      obtain ⟨front, behind, rfl, rfl, -, closesAlike⟩ := rawClosingLength_front measured
      refine ⟨signs ++ '"' :: front, behind, by simp [← whole], by simp; omega, fun other => ?_⟩
      rw [List.append_assoc, List.cons_append, rawLength_append all, if_pos few]
      exact closesAlike other
    · cases measured
  · cases measured

/-! ## Suffixes -/

theorem openedLength_front {body : List Char → Option Nat} (ends : EndsItself body)
    {opening letters : List Char} {length : Nat}
    (measured : openedLength (opening ++ letters) opening.length body = some length) :
    ∃ front behind, letters = front ++ behind ∧ length = (opening ++ front).length ∧
      ∀ other, Breaks other →
        openedLength (opening ++ (front ++ other)) opening.length body = some length := by
  rw [openedLength, List.drop_left] at measured
  obtain ⟨_, closes, rfl⟩ := Option.map_eq_some_iff.mp measured
  obtain ⟨front, rest, rfl, rfl, closesAlike⟩ := ends _ _ closes
  obtain ⟨word, behind, rfl, suffix, isWord⟩ := exists_wordLength rest
  have shift (other : List Char) :
      (opening ++ (front ++ other)).drop (opening.length + front.length) = other := by
    rw [← List.append_assoc, ← List.length_append, List.drop_left]
  refine ⟨front ++ word, behind, by simp, ?_, fun other breaks => ?_⟩
  · rw [suffixed, shift, suffix]
    simp
    omega
  · have alike : wordLength (word ++ other) = word.length := by
      rcases isWord with rfl | ⟨identifier, -⟩
      · exact breaks.endsWord.wordLength
      · exact breaks.endsWord.wordLength_append identifier
    rw [openedLength, List.drop_left, List.append_assoc, closesAlike, Option.map_some, suffixed,
      suffixed, shift, shift, suffix, alike]

end Wireform.Syntax
