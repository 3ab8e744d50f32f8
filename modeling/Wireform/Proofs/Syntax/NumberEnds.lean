import Wireform.Proofs.Syntax.WordEnds

/-! # Ends of numbers

Whether a dot, an exponent or a suffix belongs to a number is decided by characters behind it. They
are in the word that goes on behind the digits, so the number has one length in two texts that go on
alike for that word (`GoesOnAlike`). -/

namespace Wireform.Syntax

open Wireform.Text

/-! ## Digits and exponents -/

/-- Behind the same front two texts go on alike for as long as a word does, and no longer. -/
inductive GoesOnAlike : (behind other : List Char) → Prop where
  | intro (word : List Char) {behind other : List Char}
      (all : ∀ letter ∈ word, continuesIdentifier letter = true) (ends : EndsWord behind)
      (breaks : Breaks other) : GoesOnAlike (word ++ behind) (word ++ other)

/-- What stands first behind a number: the same character in both texts, or what breaks off. -/
theorem GoesOnAlike.head? {behind other : List Char} (alike : GoesOnAlike behind other) :
    other.head? = behind.head? ∨ Breaks other := by
  rcases alike with ⟨word, all, ends, breaks⟩
  cases word with
  | nil => exact .inr breaks
  | cons first rest => exact .inl rfl

theorem Breaks.stopsNumber {behind : List Char} (breaks : Breaks behind) :
    ∀ first ∈ behind.head?, first.isDigit = false ∧ first ≠ '_' ∧ hexValue? first = none ∧
      ∀ sign digit, exponentStep? sign digit first = none := by
  intro first isFirst
  have among := breaks first isFirst
  simp only [List.mem_cons, List.not_mem_nil, or_false] at among
  rcases among with rfl | rfl | rfl <;> decide

theorem exponentLength_stop {sign digit : Bool} {count : Nat} {letters : List Char}
    (stops : ∀ first ∈ letters.head?, exponentStep? sign digit first = none) :
    exponentLength sign digit count letters = if digit then some count else none := by
  cases letters with
  | nil => rfl
  | cons first rest => rw [exponentLength, stops first rfl]

theorem exponentLength_front {sign digit : Bool} {count length : Nat} {letters : List Char}
    (measured : exponentLength sign digit count letters = some length) :
    ∃ front behind, letters = front ++ behind ∧ length = count + front.length ∧
      ∀ other, other.head? = behind.head? ∨ Breaks other →
        exponentLength sign digit count (front ++ other) = some length := by
  have stopped {sign digit : Bool} {count : Nat} {letters : List Char}
      (stops : ∀ first ∈ letters.head?, exponentStep? sign digit first = none)
      (measured : (if digit then some count else none) = some length) :
      ∃ front behind, letters = front ++ behind ∧ length = count + front.length ∧
        ∀ other, other.head? = behind.head? ∨ Breaks other →
          exponentLength sign digit count (front ++ other) = some length := by
    have same : length = count := by
      split at measured
      · exact (Option.some.inj measured).symm
      · cases measured
    refine ⟨[], letters, rfl, same, fun other alike => ?_⟩
    rw [List.nil_append, exponentLength_stop, measured]
    rcases alike with alike | breaks
    · rw [alike]
      exact stops
    · exact fun first isFirst => (breaks.stopsNumber first isFirst).2.2.2 sign digit
  induction letters generalizing sign digit count with
  | nil => exact stopped (by simp) measured
  | cons first rest induction =>
    rw [exponentLength] at measured
    cases steps : exponentStep? sign digit first with
    | none =>
      rw [steps] at measured
      exact stopped (by simpa using steps) measured
    | some next =>
      rw [steps] at measured
      obtain ⟨front, behind, rfl, same, measuredAlike⟩ := induction measured
      refine ⟨first :: front, behind, rfl, by simp [same]; omega, fun other alike => ?_⟩
      rw [List.cons_append, exponentLength, steps]
      exact measuredAlike other alike

theorem exponentStep?_of_endsWord {sign : Bool} {character : Char}
    (ends : continuesIdentifier character = false) : exponentStep? sign true character = none := by
  have noDigit : ¬character.isDigit = true := by
    intro isDigit
    rw [continuesIdentifier_of_isDigit isDigit] at ends
    cases ends
  have noGap : ¬character = '_' := by
    rintro rfl
    revert ends
    decide
  simp [exponentStep?, noDigit, noGap]

/-- Where an exponent is read in front of what breaks off, the word that it is in decides. -/
theorem exponentLength_of_breaks {sign digit : Bool} {count length : Nat}
    {run other : List Char} (measured : exponentLength sign digit count (run ++ other) = some length)
    (breaks : Breaks other) :
    length ≤ count + run.length ∧ ∀ behind, EndsWord behind →
      exponentLength sign digit count (run ++ behind) = some length := by
  induction run generalizing sign digit count with
  | nil =>
    rw [List.nil_append, exponentLength_stop fun first isFirst =>
      (breaks.stopsNumber first isFirst).2.2.2 sign digit] at measured
    split at measured
    · rename_i isDigit
      obtain rfl := isDigit
      cases measured
      exact ⟨Nat.le_refl _, fun behind ends =>
        exponentLength_stop fun first isFirst => exponentStep?_of_endsWord (ends first isFirst)⟩
    · cases measured
  | cons first rest induction =>
    rw [List.cons_append, exponentLength] at measured
    cases steps : exponentStep? sign digit first with
    | none =>
      rw [steps] at measured
      have same : length = count := by
        dsimp only at measured
        split at measured
        · exact (Option.some.inj measured).symm
        · cases measured
      refine ⟨by omega, fun behind ends => ?_⟩
      rw [List.cons_append, exponentLength, steps]
      exact measured
    | some next =>
      rw [steps] at measured
      obtain ⟨within, measuredAlike⟩ := induction measured
      refine ⟨by rw [List.length_cons]; omega, fun behind ends => ?_⟩
      rw [List.cons_append, exponentLength, steps]
      exact measuredAlike behind ends

/-- The character is no digit of a number with this base, and no gap between digits. -/
structure EndsDigits (base : Nat) (character : Char) : Prop where
  noDigit : character.isDigit = false
  noGap : character ≠ '_'
  tooLarge : ∀ value, hexValue? character = some value → base ≤ value

theorem Breaks.endsDigits {behind : List Char} (breaks : Breaks behind) (base : Nat) :
    ∀ first ∈ behind.head?, EndsDigits base first := by
  intro first isFirst
  obtain ⟨noDigit, noGap, noHex, -⟩ := breaks.stopsNumber first isFirst
  exact ⟨noDigit, noGap, by simp [noHex]⟩

theorem digitsLength_stop {base count : Nat} {letters : List Char}
    (stops : ∀ first ∈ letters.head?, EndsDigits base first) :
    digitsLength base count true letters = some count := by
  cases letters with
  | nil => rfl
  | cons first rest =>
    obtain ⟨noDigit, noGap, tooLarge⟩ := stops first rfl
    cases hex : hexValue? first with
    | none => simp [digitsLength, noDigit, noGap, hex]
    | some value => simp [digitsLength, noDigit, noGap, hex, Nat.not_lt.mpr (tooLarge value hex)]

/-- A character of a number goes on with its digits, or ends them where there are some. -/
theorem digitsLength_cons_cases {base count length : Nat} {digit : Bool} {first : Char}
    {rest : List Char} (measured : digitsLength base count digit (first :: rest) = some length) :
    (∃ next, continuesIdentifier first = true ∧
      ∀ rest, digitsLength base count digit (first :: rest) =
        digitsLength base (count + 1) next rest) ∨
    digit = true ∧ count = length ∧ EndsDigits base first := by
  by_cases isDigit : first.isDigit = true
  · by_cases small : first.toNat - '0'.toNat < base
    · refine .inl ⟨true, continuesIdentifier_of_isDigit isDigit, fun rest => ?_⟩
      rw [digitsLength, if_pos isDigit, if_pos small]
    · rw [digitsLength, if_pos isDigit, if_neg small] at measured
      cases measured
  by_cases isGap : first = '_'
  · by_cases early : (!digit && decide (base = 10)) = true
    · rw [digitsLength, if_neg isDigit, if_pos isGap, if_pos early] at measured
      cases measured
    · refine .inl ⟨digit, by rw [isGap]; decide, fun rest => ?_⟩
      rw [digitsLength, if_neg isDigit, if_pos isGap, if_neg early]
  by_cases small : ∃ value, hexValue? first = some value ∧ value < base
  · obtain ⟨value, hex, small⟩ := small
    exact .inl ⟨true, continuesIdentifier_of_hexValue? hex, fun rest => by
      simp [digitsLength, isDigit, isGap, hex, small]⟩
  · have tooLarge : ∀ value, hexValue? first = some value → base ≤ value :=
      fun value hex => Nat.not_lt.mp fun less => small ⟨value, hex, less⟩
    have ends : (if digit then some count else none) = some length := by
      rw [← measured]
      cases hex : hexValue? first with
      | none => simp [digitsLength, isDigit, isGap, hex]
      | some value =>
        simp [digitsLength, isDigit, isGap, hex, Nat.not_lt.mpr (tooLarge value hex)]
    split at ends
    · rename_i isTrue
      exact .inr ⟨isTrue, Option.some.inj ends, Bool.eq_false_iff.mpr isDigit, isGap, tooLarge⟩
    · cases ends

theorem digitsLength_front {base count length : Nat} {digit : Bool} {letters : List Char}
    (measured : digitsLength base count digit letters = some length) :
    ∃ front behind, letters = front ++ behind ∧ length = count + front.length ∧
      (∀ letter ∈ front, continuesIdentifier letter = true) ∧ (front = [] → digit = true) ∧
      ∀ other, other.head? = behind.head? ∨ Breaks other →
        digitsLength base count digit (front ++ other) = some length := by
  have stopped {count : Nat} {letters : List Char}
      (stops : ∀ first ∈ letters.head?, EndsDigits base first) :
      ∃ front behind, letters = front ++ behind ∧ count = count + front.length ∧
        (∀ letter ∈ front, continuesIdentifier letter = true) ∧ (front = [] → true = true) ∧
        ∀ other, other.head? = behind.head? ∨ Breaks other →
          digitsLength base count true (front ++ other) = some count := by
    refine ⟨[], letters, rfl, rfl, by simp, by simp, fun other alike => digitsLength_stop ?_⟩
    rcases alike with alike | breaks
    · rw [List.nil_append, alike]
      exact stops
    · exact breaks.endsDigits base
  induction letters generalizing digit count with
  | nil =>
    cases digit with
    | false => cases measured
    | true =>
      cases measured
      exact stopped (by simp)
  | cons first rest induction =>
    rcases digitsLength_cons_cases measured with ⟨next, continues, steps⟩ | ⟨rfl, rfl, ends⟩
    · rw [steps] at measured
      obtain ⟨front, behind, rfl, same, all, -, measuredAlike⟩ := induction measured
      refine ⟨first :: front, behind, rfl, by simp [same]; omega, by simpa using ⟨continues, all⟩,
        by simp, fun other alike => ?_⟩
      rw [List.cons_append, steps]
      exact measuredAlike other alike
    · exact stopped (by simpa using ends)

/-- What does not begin with two characters begins with them in front of nothing else either. -/
theorem append_ne_cons_cons {front behind other tail : List Char} {first second : Char}
    (foreign : second ∉ [' ', ')', ']'])
    (differ : ∀ tail, front ++ behind ≠ first :: second :: tail) (notEmpty : front ≠ [])
    (alike : other.head? = behind.head? ∨ Breaks other) :
    front ++ other ≠ first :: second :: tail := by
  intro same
  match front with
  | [] => exact notEmpty rfl
  | [only] =>
    obtain ⟨rfl, rfl⟩ := List.cons.inj same
    rcases alike with alike | breaks
    · obtain ⟨rest, rfl⟩ := List.head?_eq_some_iff.mp alike.symm
      exact differ rest rfl
    · exact foreign (breaks second rfl)
  | head :: next :: rest =>
    obtain ⟨rfl, fromSecond⟩ := List.cons.inj same
    obtain ⟨rfl, -⟩ := List.cons.inj fromSecond
    exact differ (rest ++ behind) rfl

theorem integerDigitsLength_front {length : Nat} {letters : List Char}
    (measured : integerDigitsLength letters = some length) :
    ∃ front behind, letters = front ++ behind ∧ length = front.length ∧
      (∀ letter ∈ front, continuesIdentifier letter = true) ∧
      ∀ other, other.head? = behind.head? ∨ Breaks other →
        integerDigitsLength (front ++ other) = some length := by
  unfold integerDigitsLength at measured
  split at measured
  · obtain ⟨front, behind, rfl, rfl, all, -, measuredAlike⟩ := digitsLength_front measured
    refine ⟨'0' :: 'x' :: front, behind, rfl, by simp; omega, ?_, measuredAlike⟩
    simpa using ⟨by decide, by decide, all⟩
  · obtain ⟨front, behind, rfl, rfl, all, -, measuredAlike⟩ := digitsLength_front measured
    refine ⟨'0' :: 'o' :: front, behind, rfl, by simp; omega, ?_, measuredAlike⟩
    simpa using ⟨by decide, by decide, all⟩
  · obtain ⟨front, behind, rfl, rfl, all, -, measuredAlike⟩ := digitsLength_front measured
    refine ⟨'0' :: 'b' :: front, behind, rfl, by simp; omega, ?_, measuredAlike⟩
    simpa using ⟨by decide, by decide, all⟩
  · rename_i noHex noOctal noBinary
    obtain ⟨front, behind, rfl, rfl, all, digit, measuredAlike⟩ := digitsLength_front measured
    have notEmpty : front ≠ [] := by
      intro empty
      cases digit empty
    refine ⟨front, behind, rfl, by simp, all, fun other alike => ?_⟩
    rw [integerDigitsLength]
    · exact measuredAlike other alike
    · exact fun _ => append_ne_cons_cons (by decide) noHex notEmpty alike
    · exact fun _ => append_ne_cons_cons (by decide) noOctal notEmpty alike
    · exact fun _ => append_ne_cons_cons (by decide) noBinary notEmpty alike

/-- The suffix of a number ends where no word goes on. -/
theorem withSuffixLength_front {front rest : List Char} {length : Nat}
    (measured : withSuffixLength (front ++ rest) front.length = some length) :
    ∃ word behind, rest = word ++ behind ∧ length = (front ++ word).length ∧
      (∀ letter ∈ word, continuesIdentifier letter = true) ∧ EndsWord behind ∧
      ∀ other, EndsWord other →
        withSuffixLength (front ++ (word ++ other)) front.length = some length := by
  obtain ⟨word, behind, rfl, suffix, isWord⟩ := exists_wordLength rest
  have shift (other : List Char) :
      (front ++ (word ++ other)).drop (front.length + word.length) = other := by
    rw [← List.append_assoc, ← List.length_append, List.drop_left]
  have ended (other : List Char) (ends : EndsWord other) :
      withSuffixLength (front ++ (word ++ other)) front.length =
        some (front.length + word.length) := by
    have alike : wordLength (word ++ other) = word.length := by
      rcases isWord with rfl | ⟨identifier, -⟩
      · exact ends.wordLength
      · exact ends.wordLength_append identifier
    dsimp only [withSuffixLength]
    rw [List.drop_left, alike, shift, ends.any_eq_false]
    rfl
  have all : ∀ letter ∈ word, continuesIdentifier letter = true := by
    rcases isWord with rfl | ⟨identifier, -⟩
    · simp
    · exact continuesIdentifier_of_mem identifier
  have ends : EndsWord behind := by
    intro next isNext
    dsimp only [withSuffixLength] at measured
    rw [List.drop_left, suffix, shift, Option.mem_def.mp isNext] at measured
    split at measured
    · cases measured
    · rename_i noNext
      simpa using noNext
  have same : length = front.length + word.length :=
    Option.some.inj (measured.symm.trans (ended behind ends))
  refine ⟨word, behind, rfl, by simp [same], all, ends, fun other ends => ?_⟩
  rw [ended other ends, same]

/-! ## Floats -/

theorem withExponentLength_plain {count : Nat} {plain : Option Nat} {letters : List Char}
    (other : ∀ first ∈ letters.head?, ¬(first = 'e' ∨ first = 'E')) :
    withExponentLength count plain letters = plain := by
  cases letters with
  | nil => rfl
  | cons first rest => rw [withExponentLength, if_neg (other first rfl)]

theorem Breaks.noExponent {behind : List Char} (breaks : Breaks behind) :
    ∀ first ∈ behind.head?, ¬(first = 'e' ∨ first = 'E') := by
  intro first isFirst
  rintro (rfl | rfl) <;> exact absurd (breaks _ isFirst) (by decide)

/-- A word that is no exponent is none in front of what breaks off either. -/
theorem withExponentLength_of_goesOnAlike {count : Nat} {plain : Option Nat}
    {behind other : List Char} (alike : GoesOnAlike behind other)
    (noExponent : ∀ first rest, behind = first :: rest → first = 'e' ∨ first = 'E' →
      exponentLength false false (count + 1) rest = none) :
    withExponentLength count plain other = plain := by
  rcases alike with ⟨word, all, ends, breaks⟩
  cases word with
  | nil => exact withExponentLength_plain breaks.noExponent
  | cons first word =>
    by_cases exponent : first = 'e' ∨ first = 'E'
    · rw [List.cons_append, withExponentLength, if_pos exponent]
      cases digits : exponentLength false false (count + 1) (word ++ _) with
      | none => rfl
      | some length =>
        have found := (exponentLength_of_breaks digits breaks).2 _ ends
        cases (noExponent first _ rfl exponent).symm.trans found
    · exact withExponentLength_plain (by simpa using exponent)

theorem withExponentLength_front {count length : Nat} {plain : Option Nat} {letters : List Char}
    (measured : withExponentLength count plain letters = some length)
    (isPlain : ∀ found, plain = some found → found = count) :
    ∃ front behind, letters = front ++ behind ∧ length = count + front.length ∧
      ∀ other, GoesOnAlike behind other →
        withExponentLength count plain (front ++ other) = some length := by
  have noExponent (none : ∀ first rest, letters = first :: rest → first = 'e' ∨ first = 'E' →
      exponentLength false false (count + 1) rest = none) (found : plain = some length) :
      ∃ front behind, letters = front ++ behind ∧ length = count + front.length ∧
        ∀ other, GoesOnAlike behind other →
          withExponentLength count plain (front ++ other) = some length :=
    ⟨[], letters, rfl, isPlain length found,
      fun other alike => (withExponentLength_of_goesOnAlike alike none).trans found⟩
  cases letters with
  | nil => exact noExponent (by simp) measured
  | cons first rest =>
    rw [withExponentLength] at measured
    split at measured
    · rename_i exponent
      cases digits : exponentLength false false (count + 1) rest with
      | some found =>
        rw [digits] at measured
        obtain rfl : found = length := Option.some.inj measured
        obtain ⟨front, behind, rfl, same, digitsAlike⟩ := exponentLength_front digits
        refine ⟨first :: front, behind, rfl, by simp [same]; omega, fun other alike => ?_⟩
        rw [List.cons_append, withExponentLength, if_pos exponent,
          digitsAlike other alike.head?]
        rfl
      | none =>
        rw [digits] at measured
        refine noExponent ?_ measured
        rintro _ _ ⟨⟩ -
        exact digits
    · rename_i noLetter
      refine noExponent ?_ measured
      rintro _ _ ⟨⟩ letter
      exact absurd letter noLetter

/-- What stands first behind a front: the same in both texts, or what breaks off. -/
theorem GoesOnAlike.head?_append {behind other : List Char} (alike : GoesOnAlike behind other)
    (front : List Char) :
    ∀ first ∈ (front ++ other).head?, first ∈ (front ++ behind).head? ∨ first ∈ [' ', ')', ']'] := by
  intro first isFirst
  cases front with
  | nil =>
    rcases alike.head? with same | breaks
    · exact .inl (by rwa [List.nil_append, ← same])
    · exact .inr (breaks first isFirst)
  | cons head tail => exact .inl isFirst

theorem takeWhile_append_of_head? {behind other run : List Char}
    (heads : ∀ first ∈ other.head?, first ∈ behind.head? ∨ first ∈ [' ', ')', ']'])
    {holds : Char → Bool} (all : ∀ letter ∈ run, holds letter = true)
    (foreign : [' ', ')', ']'].any holds = false)
    (ends : ∀ next ∈ behind.head?, holds next = false) : (run ++ other).takeWhile holds = run := by
  rw [takeWhile_append_of_stops, List.takeWhile_eq_self_iff.mpr all]
  exact fun first isFirst => (heads first isFirst).elim (ends first)
    fun among => eq_false_of_ne_true (List.any_eq_false.mp foreign first among)

theorem head?_dropWhile (holds : Char → Bool) (letters : List Char) :
    ∀ next ∈ (letters.dropWhile holds).head?, holds next = false := by
  intro next isNext
  have stops := List.head?_dropWhile_not holds letters
  rw [Option.mem_def.mp isNext] at stops
  simpa using stops

theorem fractionLength_front {whole length : Nat} {letters : List Char}
    (measured : fractionLength whole letters = some length) :
    ∃ front behind, letters = front ++ behind ∧ length = whole + front.length ∧
      ∀ other, GoesOnAlike behind other → fractionLength whole (front ++ other) = some length := by
  unfold fractionLength at measured
  split at measured
  · rename_i rest
    split at measured
    · cases measured
    · rename_i noField
      have split := List.takeWhile_append_dropWhile (p := isDigitOrUnderscore) (l := rest)
      have all : ∀ letter ∈ rest.takeWhile isDigitOrUnderscore, isDigitOrUnderscore letter = true :=
        fun letter among => List.mem_takeWhile_imp among
      have ends := head?_dropWhile isDigitOrUnderscore rest
      dsimp only at measured
      rw [drop_length_takeWhile] at measured
      generalize rest.takeWhile isDigitOrUnderscore = fraction at split all measured
      generalize rest.dropWhile isDigitOrUnderscore = behindFraction at split ends measured
      obtain ⟨front, behind, rfl, rfl, measuredAlike⟩ :=
        withExponentLength_front measured (by simp)
      refine ⟨'.' :: (fraction ++ front), behind, by simp [← split], by simp; omega,
        fun other alike => ?_⟩
      have taken : (fraction ++ (front ++ other)).takeWhile isDigitOrUnderscore = fraction :=
        takeWhile_append_of_head? (alike.head?_append front) all (by decide) ends
      have noField : ¬(fraction ++ (front ++ other)).head?.any
          (fun next => next = '.' || startsIdentifier next) = true := by
        intro field
        obtain ⟨first, isFirst, begins⟩ := (Option.any_eq_true _ _).mp field
        rw [← List.append_assoc] at isFirst
        rcases alike.head?_append (fraction ++ front) first isFirst with same | breaks
        · rw [List.append_assoc, split] at same
          exact noField ((Option.any_eq_true _ _).mpr ⟨first, same, begins⟩)
        · have none : [' ', ')', ']'].any
              (fun mark => decide (mark = '.') || startsIdentifier mark) = false := by decide
          exact List.any_eq_false.mp none first breaks begins
      rw [List.cons_append, List.append_assoc, fractionLength, if_neg noField]
      dsimp only
      rw [taken, List.drop_left]
      exact measuredAlike other alike
  · rename_i rest noPoint
    obtain ⟨front, behind, rfl, rfl, measuredAlike⟩ := withExponentLength_front measured (by simp)
    refine ⟨front, behind, rfl, rfl, fun other alike => ?_⟩
    rw [fractionLength]
    · exact measuredAlike other alike
    · intro tail same
      rcases alike.head?_append front '.' (by rw [same]; rfl) with isPoint | breaks
      · obtain ⟨rest, begins⟩ := List.head?_eq_some_iff.mp isPoint
        exact noPoint rest begins
      · exact absurd breaks (by decide)

theorem floatDigitsLength_front {length : Nat} {letters : List Char}
    (measured : floatDigitsLength letters = some length) :
    ∃ front behind, letters = front ++ behind ∧ length = front.length ∧
      ∀ other, GoesOnAlike behind other → floatDigitsLength (front ++ other) = some length := by
  unfold floatDigitsLength at measured
  split at measured
  · rename_i begins
    have split := List.takeWhile_append_dropWhile (p := isDigitOrUnderscore) (l := letters)
    have all : ∀ letter ∈ letters.takeWhile isDigitOrUnderscore, isDigitOrUnderscore letter = true :=
      fun letter among => List.mem_takeWhile_imp among
    have ends := head?_dropWhile isDigitOrUnderscore letters
    dsimp only at measured
    rw [drop_length_takeWhile] at measured
    generalize letters.takeWhile isDigitOrUnderscore = whole at split all measured
    generalize letters.dropWhile isDigitOrUnderscore = behindWhole at split ends measured
    obtain ⟨front, behind, rfl, rfl, measuredAlike⟩ := fractionLength_front measured
    refine ⟨whole ++ front, behind, by simp [← split], by simp, fun other alike => ?_⟩
    have taken : (whole ++ (front ++ other)).takeWhile isDigitOrUnderscore = whole :=
      takeWhile_append_of_head? (alike.head?_append front) all (by decide) ends
    have digit : (whole ++ (front ++ other)).head?.any Char.isDigit = true := by
      cases whole with
      | nil =>
        obtain ⟨first, isFirst, isDigit⟩ := (Option.any_eq_true _ _).mp begins
        have noDigit := ends first (by rwa [← split] at isFirst)
        simp [isDigitOrUnderscore, isDigit] at noDigit
      | cons first rest => rwa [← split] at begins
    rw [List.append_assoc, floatDigitsLength, if_pos digit]
    dsimp only
    rw [taken, List.drop_left]
    exact measuredAlike other alike
  · cases measured

theorem EndsWord.stopsWhole {behind : List Char} (ends : EndsWord behind) :
    ∀ first ∈ behind.head?, isDigitOrUnderscore first = false := by
  intro first isFirst
  have endsHere := ends first isFirst
  rw [isDigitOrUnderscore, Bool.or_eq_false_iff, decide_eq_false_iff_not]
  constructor
  · apply Bool.eq_false_iff.mpr
    intro isDigit
    rw [continuesIdentifier_of_isDigit isDigit] at endsHere
    cases endsHere
  · rintro rfl
    revert endsHere
    decide

theorem EndsWord.floatDigitsLength_append {behind : List Char} (ends : EndsWord behind)
    (run : List Char) :
    floatDigitsLength (run ++ behind) =
      if (run ++ behind).head?.any Char.isDigit then
        fractionLength (run.takeWhile isDigitOrUnderscore).length
          (run.dropWhile isDigitOrUnderscore ++ behind)
      else none := by
  have within : (run.takeWhile isDigitOrUnderscore).length ≤ run.length :=
    (List.takeWhile_prefix _).length_le
  dsimp only [floatDigitsLength]
  rw [takeWhile_append_of_stops run ends.stopsWhole, List.drop_append_of_le_length within,
    drop_length_takeWhile]

/-- What stands behind the digits in a word is no fraction, so it has to be an exponent. -/
theorem fractionLength_of_breaks {whole length : Nat} {run other : List Char}
    (all : ∀ letter ∈ run, continuesIdentifier letter = true)
    (measured : fractionLength whole (run ++ other) = some length) (breaks : Breaks other) :
    run ≠ [] ∧ length ≤ whole + run.length ∧ ∀ behind, EndsWord behind →
      fractionLength whole (run ++ behind) = some length := by
  cases run with
  | nil =>
    have noFraction : fractionLength whole other = none := by
      rw [fractionLength]
      · exact withExponentLength_plain breaks.noExponent
      · rintro tail rfl
        exact absurd (breaks _ rfl) (by decide)
    rw [List.nil_append, noFraction] at measured
    cases measured
  | cons first rest =>
    have noPoint : first ≠ '.' := by
      rintro rfl
      exact absurd (all '.' List.mem_cons_self) (by decide)
    have fraction (behind : List Char) : fractionLength whole (first :: rest ++ behind) =
        withExponentLength whole none (first :: (rest ++ behind)) := by
      rw [List.cons_append, fractionLength]
      exact fun tail same => noPoint (List.cons.inj same).1
    rw [fraction, withExponentLength] at measured
    split at measured
    · rename_i exponent
      obtain ⟨within, measuredAlike⟩ := exponentLength_of_breaks (by simpa using measured) breaks
      refine ⟨List.cons_ne_nil _ _, by simp; omega, fun behind ends => ?_⟩
      rw [fraction, withExponentLength, if_pos exponent, measuredAlike behind ends]
      rfl
    · cases measured

/-- Where a float is read in front of what breaks off, the word that it is in decides. -/
theorem floatDigitsLength_of_breaks {length : Nat} {run other : List Char}
    (all : ∀ letter ∈ run, continuesIdentifier letter = true)
    (measured : floatDigitsLength (run ++ other) = some length) (breaks : Breaks other) :
    length ≤ run.length ∧ ∀ behind, EndsWord behind →
      floatDigitsLength (run ++ behind) = some length := by
  rw [breaks.endsWord.floatDigitsLength_append] at measured
  split at measured
  · rename_i digit
    obtain ⟨notEmpty, within, measuredAlike⟩ := fractionLength_of_breaks
      (fun letter among => all letter ((List.dropWhile_suffix _).subset among)) measured breaks
    have lengths : run.length = (run.takeWhile isDigitOrUnderscore).length +
        (run.dropWhile isDigitOrUnderscore).length := by
      rw [← List.length_append, List.takeWhile_append_dropWhile]
    refine ⟨lengths ▸ within, fun behind ends => ?_⟩
    have digitAlike : (run ++ behind).head?.any Char.isDigit = true := by
      cases run with
      | nil => exact absurd rfl notEmpty
      | cons first rest => exact digit
    rw [ends.floatDigitsLength_append, if_pos digitAlike, measuredAlike behind ends]
  · cases measured

/-! ## Whole numbers -/

/-- Behind the digits in a word, what is left of the word is a suffix or it is none. -/
theorem withSuffixLength_run {run behind : List Char} {digits : Nat}
    (within : digits ≤ run.length) (all : ∀ letter ∈ run, continuesIdentifier letter = true)
    (ends : EndsWord behind) :
    withSuffixLength (run ++ behind) digits =
      if (run.drop digits).head?.all startsIdentifier then some run.length else none := by
  have drop : (run ++ behind).drop digits = run.drop digits ++ behind :=
    List.drop_append_of_le_length within
  have length : run.length = digits + (run.drop digits).length := by
    rw [List.length_drop]
    omega
  have allRest : ∀ letter ∈ run.drop digits, continuesIdentifier letter = true :=
    fun letter among => all letter (List.mem_of_mem_drop among)
  dsimp only [withSuffixLength]
  rw [drop, ← List.drop_drop, drop]
  cases rest : run.drop digits with
  | nil =>
    rw [rest] at length
    rw [List.nil_append, ends.wordLength, List.drop_zero, ends.any_eq_false]
    simp [length]
  | cons first tail =>
    rw [rest] at length allRest
    obtain ⟨continues, allTail⟩ := List.forall_mem_cons.mp allRest
    by_cases starts : startsIdentifier first = true
    · have identifier : isIdentifierText (first :: tail) = true := by
        simpa [isIdentifierText, starts] using allTail
      rw [ends.wordLength_append identifier, List.drop_left, ← length, ends.any_eq_false]
      simp [starts]
    · have noSuffix : wordLength (first :: tail ++ behind) = 0 := by
        rw [List.cons_append, wordLength, if_neg starts]
      rw [noSuffix]
      simp [continues, starts]

theorem numberLength_front {letters : List Char} {kind : LiteralKind} {length : Nat}
    (measured : numberLength letters = some (kind, length)) :
    ∃ front behind, letters = front ++ behind ∧ length = front.length ∧
      ∀ other, Breaks other → numberLength (front ++ other) = some (kind, length) := by
  unfold numberLength at measured
  split at measured
  · rename_i total found
    cases measured
    obtain ⟨digits, measured, suffix⟩ := Option.bind_eq_some_iff.mp found
    obtain ⟨front, rest, rfl, rfl, measuredAlike⟩ := floatDigitsLength_front measured
    obtain ⟨word, behind, rfl, rfl, all, ends, suffixAlike⟩ := withSuffixLength_front suffix
    refine ⟨front ++ word, behind, by simp, rfl, fun other breaks => ?_⟩
    have float := measuredAlike (word ++ other) (.intro word all ends breaks)
    rw [numberLength, List.append_assoc, float, Option.bind_some,
      suffixAlike other breaks.endsWord]
  · rename_i noFloat
    obtain ⟨total, found, same⟩ := Option.map_eq_some_iff.mp measured
    cases same
    obtain ⟨digits, measured, suffix⟩ := Option.bind_eq_some_iff.mp found
    obtain ⟨front, rest, rfl, rfl, isRun, measuredAlike⟩ := integerDigitsLength_front measured
    obtain ⟨word, behind, rfl, rfl, all, ends, suffixAlike⟩ := withSuffixLength_front suffix
    refine ⟨front ++ word, behind, by simp, rfl, fun other breaks => ?_⟩
    have integer := measuredAlike (word ++ other) (GoesOnAlike.intro word all ends breaks).head?
    have allRun : ∀ letter ∈ front ++ word, continuesIdentifier letter = true :=
      List.forall_mem_append.mpr ⟨isRun, all⟩
    -- A float in front of what breaks off would have been one in front of the old text too.
    have stillNoFloat : (floatDigitsLength ((front ++ word) ++ other)).bind
        (withSuffixLength ((front ++ word) ++ other)) = none := by
      cases float : floatDigitsLength ((front ++ word) ++ other) with
      | none => rfl
      | some digits =>
        obtain ⟨within, floatAlike⟩ := floatDigitsLength_of_breaks allRun float breaks
        rw [← List.append_assoc, floatAlike behind ends, Option.bind_some,
          withSuffixLength_run within allRun ends] at noFloat
        rw [Option.bind_some, withSuffixLength_run within allRun breaks.endsWord]
        exact noFloat
    rw [numberLength, stillNoFloat]
    dsimp only
    rw [List.append_assoc, integer, Option.bind_some, suffixAlike other breaks.endsWord]
    rfl

end Wireform.Syntax
