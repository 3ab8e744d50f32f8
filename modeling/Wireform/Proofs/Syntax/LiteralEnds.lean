import Wireform.Proofs.Syntax.NumberEnds

/-! # Ends of literals

A literal of any kind is read back where it is written, in front of whatever breaks off. -/

namespace Wireform.Syntax

theorem opened_front {measure : List Char → Option (LiteralKind × Nat)}
    {body : List Char → Option Nat} (ends : EndsItself body) (opening : List Char)
    {found : LiteralKind}
    (opens : ∀ letters, measure (opening ++ letters) =
      (openedLength (opening ++ letters) opening.length body).map fun length => (found, length))
    {letters : List Char} {kind : LiteralKind} {length : Nat}
    (measured : measure (opening ++ letters) = some (kind, length)) :
    ∃ front behind, opening ++ letters = front ++ behind ∧ length = front.length ∧
      ∀ other, Breaks other → measure (front ++ other) = some (kind, length) := by
  rw [opens] at measured
  obtain ⟨total, opened, same⟩ := Option.map_eq_some_iff.mp measured
  cases same
  obtain ⟨front, behind, rfl, rfl, openedAlike⟩ := openedLength_front ends opened
  refine ⟨opening ++ front, behind, by simp, rfl, fun other breaks => ?_⟩
  rw [List.append_assoc, opens, openedAlike other breaks, Option.map_some]

theorem le_of_hexValue? {character : Char} {value : Nat} (letter : ¬character.isDigit = true)
    (hex : hexValue? character = some value) : 10 ≤ value := by
  rw [hexValue?, if_neg letter] at hex
  split at hex
  · cases hex
    omega
  · split at hex
    · cases hex
      omega
    · cases hex

/-- A number begins with a digit. -/
theorem isDigit_of_numberLength {letters : List Char} {found : LiteralKind × Nat}
    (measured : numberLength letters = some found) : letters.head?.any Char.isDigit = true := by
  unfold numberLength at measured
  split at measured
  · rename_i float
    obtain ⟨digits, isFloat, -⟩ := Option.bind_eq_some_iff.mp float
    rw [floatDigitsLength] at isFloat
    split at isFloat
    · assumption
    · cases isFloat
  · obtain ⟨total, integer, -⟩ := Option.map_eq_some_iff.mp measured
    obtain ⟨digits, isInteger, -⟩ := Option.bind_eq_some_iff.mp integer
    unfold integerDigitsLength at isInteger
    split at isInteger
    · rfl
    · rfl
    · rfl
    · cases letters with
      | nil => cases isInteger
      | cons first rest =>
        apply Classical.byContradiction
        intro letter
        rw [List.head?_cons, Option.any_some] at letter
        rw [digitsLength, if_neg letter] at isInteger
        split at isInteger
        · cases isInteger
        · split at isInteger
          · rename_i value hex
            rw [if_neg (Nat.not_lt.mpr (le_of_hexValue? letter hex))] at isInteger
            cases isInteger
          · cases isInteger

/-- A number is told by its first digit. -/
theorem literalLength_of_digit {first : Char} (digit : first.isDigit = true) (rest : List Char) :
    literalLength (first :: rest) = numberLength (first :: rest) := by
  unfold literalLength
  dsimp only
  split
  all_goals first | rfl | (rename_i same; cases same; cases digit)

/-- A literal is read back in front of whatever breaks off. -/
theorem literalLength_front {letters : List Char} {kind : LiteralKind} {length : Nat}
    (measured : literalLength letters = some (kind, length)) :
    ∃ front behind, letters = front ++ behind ∧ length = front.length ∧
      ∀ other, Breaks other → literalLength (front ++ other) = some (kind, length) := by
  have whole := measured
  unfold literalLength at whole
  dsimp only at whole
  split at whole
  · exact opened_front Quoting.closingLength_endsItself ['"'] (fun _ => rfl) measured
  · exact opened_front (rawLength_endsItself _) ['r'] (fun _ => rfl) measured
  · exact opened_front Quoting.closingLength_endsItself ['b', '"'] (fun _ => rfl) measured
  · exact opened_front (rawLength_endsItself _) ['b', 'r'] (fun _ => rfl) measured
  · exact opened_front (characterLength_endsItself _) ['b', '\''] (fun _ => rfl) measured
  · exact opened_front Quoting.closingLength_endsItself ['c', '"'] (fun _ => rfl) measured
  · exact opened_front (rawLength_endsItself _) ['c', 'r'] (fun _ => rfl) measured
  · exact opened_front (characterLength_endsItself _) ['\''] (fun _ => rfl) measured
  · rename_i rest
    split at whole
    · rename_i isPlaceholder
      cases whole
      obtain ⟨behind, same⟩ := List.isPrefixOf_iff_prefix.mp isPlaceholder
      refine ⟨placeholderText.toList, behind, same.symm, rfl, fun other _ => ?_⟩
      have again : placeholderText.toList.isPrefixOf (placeholderText.toList ++ other) = true :=
        List.isPrefixOf_iff_prefix.mpr (List.prefix_append _ _)
      change (if placeholderText.toList.isPrefixOf (placeholderText.toList ++ other) then
        some (LiteralKind.placeholder, placeholderText.length) else none) = _
      exact if_pos again
    · cases whole
  · obtain ⟨front, behind, rfl, rfl, measuredAlike⟩ := numberLength_front whole
    refine ⟨front, behind, rfl, rfl, fun other breaks => ?_⟩
    have alone := isDigit_of_numberLength (measuredAlike [] .nil)
    rw [List.append_nil] at alone
    rw [← measuredAlike other breaks]
    cases front with
    | nil => cases alone
    | cons first rest => exact literalLength_of_digit alone (rest ++ other)

namespace Literal

/-- The literal is read back where it is written, in front of whatever breaks off. -/
def ReadsBack (token : Literal) : Prop :=
  ∀ behind, Breaks behind → literalLength (token.spelling.toList ++ behind) =
    some (token.kind, token.spelling.toList.length)

theorem readsBack_of_literalLength {letters : List Char} {kind : LiteralKind} {length : Nat}
    (measured : literalLength letters = some (kind, length)) :
    ReadsBack ⟨kind, String.ofList (letters.take length)⟩ := by
  obtain ⟨front, behind, rfl, rfl, measuredAlike⟩ := literalLength_front measured
  intro other breaks
  rw [List.take_left, String.toList_ofList]
  exact measuredAlike other breaks

theorem digitsLength_decimal {digits behind : List Char} {count : Nat} {digit : Bool}
    (all : ∀ letter ∈ digits, letter.isDigit = true) (notEmpty : digits = [] → digit = true)
    (breaks : Breaks behind) :
    digitsLength 10 count digit (digits ++ behind) = some (count + digits.length) := by
  induction digits generalizing count digit with
  | nil =>
    obtain rfl := notEmpty rfl
    exact digitsLength_stop (breaks.endsDigits 10)
  | cons first rest induction =>
    obtain ⟨isDigit, allRest⟩ := List.forall_mem_cons.mp all
    have small : first.toNat - '0'.toNat < 10 := by
      simp only [Char.isDigit, Bool.and_eq_true, decide_eq_true_eq, UInt32.le_iff_toNat_le]
        at isDigit
      change 48 ≤ first.toNat ∧ first.toNat ≤ 57 at isDigit
      change first.toNat - 48 < 10
      omega
    rw [List.cons_append, digitsLength, if_pos isDigit, if_pos small,
      induction allRest (fun _ => rfl), List.length_cons]
    congr 1
    omega

theorem readsBack_decimal {digits : List Char} (all : ∀ letter ∈ digits, letter.isDigit = true)
    (notEmpty : digits ≠ []) : ReadsBack ⟨.integer, String.ofList digits⟩ := by
  intro behind breaks
  rw [String.toList_ofList]
  obtain ⟨first, rest, rfl⟩ := List.exists_cons_of_ne_nil notEmpty
  have digit := all first List.mem_cons_self
  have allRun : ∀ letter ∈ first :: rest, isDigitOrUnderscore letter = true :=
    fun letter among => by simp [isDigitOrUnderscore, all letter among]
  have taken : ((first :: rest) ++ behind).takeWhile isDigitOrUnderscore = first :: rest :=
    takeWhile_append_of_head? (fun next isNext => .inr (breaks next isNext)) allRun (by decide)
      (show ∀ next ∈ ([] : List Char).head?, isDigitOrUnderscore next = false by simp)
  have noFraction (whole : Nat) : fractionLength whole behind = none := by
    rw [fractionLength]
    · exact withExponentLength_plain breaks.noExponent
    · rintro tail rfl
      exact absurd (breaks _ rfl) (by decide)
  have noFloat : floatDigitsLength ((first :: rest) ++ behind) = none := by
    dsimp only [floatDigitsLength]
    rw [taken, List.drop_left, noFraction]
    exact ite_self _
  have decimal : integerDigitsLength ((first :: rest) ++ behind) =
      some (first :: rest).length := by
    have differ {second : Char} (foreign : second.isDigit = false)
        (unbroken : second ∉ [' ', ')', ']']) (tail : List Char) :
        (first :: rest) ++ behind ≠ '0' :: second :: tail := by
      have alone (tail : List Char) : (first :: rest) ++ [] ≠ '0' :: second :: tail := by
        intro same
        rw [List.append_nil] at same
        have isDigit := all second (by rw [same]; simp)
        rw [foreign] at isDigit
        cases isDigit
      exact append_ne_cons_cons unbroken alone (List.cons_ne_nil _ _) (.inr breaks)
    rw [integerDigitsLength, digitsLength_decimal all (by simp) breaks, Nat.zero_add]
    · exact fun tail => differ (by decide) (by decide) tail
    · exact fun tail => differ (by decide) (by decide) tail
    · exact fun tail => differ (by decide) (by decide) tail
  have suffix := withSuffixLength_run (Nat.le_refl _)
    (fun letter among => continuesIdentifier_of_isDigit (all letter among)) breaks.endsWord
  rw [List.cons_append, literalLength_of_digit digit, ← List.cons_append, numberLength, noFloat,
    decimal, Option.bind_none, Option.bind_some, suffix]
  simp

end Literal

end Wireform.Syntax
