import Wireform.Proofs.Syntax.LiteralEnds
import Wireform.Syntax.Phrase

/-! # Texts of tokens

Tokens that are written with blanks between them can be told apart again: their text says what they
are, but for their places and for the joint of the last mark. -/

namespace Wireform.Syntax

open Wireform.Text

/-- A text goes on like a name behind the quote of a lifetime, and not like a quoted character. -/
def BeginsLikeName (letters : List Char) : Prop :=
  ∃ first rest, letters = first :: rest ∧ startsIdentifier first = true ∧ rest.head? ≠ some '\''

namespace Tree

/-- A tree that can be told by its text. -/
inductive Legible : Tree → Prop where
  | word {name : Name} (identifier : isIdentifierText name.text.toList = true)
      (position : Position) : Legible (.word name position)
  | mark {symbol : Char} (isMark : symbol ∈ markCharacters) (noQuote : symbol ≠ '\'')
      (joint : Bool) (position : Position) : Legible (.mark symbol joint position)
  | literal {token : Literal} (readsBack : token.ReadsBack) (position : Position) :
      Legible (.literal token position)
  | lifetime {name : Name} (identifier : isIdentifierText name.text.toList = true)
      (inner position : Position) : Legible (.quoted (.word name inner) position)
  | quotedLiteral {token : Literal} (readsBack : token.ReadsBack)
      (begins : BeginsLikeName token.spelling.toList) (inner position : Position) :
      Legible (.quoted (.literal token inner) position)
  | group (delimiter : Delimiter) {content : List Tree} (all : ∀ tree ∈ content, Legible tree)
      (position : Position) : Legible (.group delimiter content position)

/-! ## Characters -/

/-- What is written between a tree and the next one. -/
def gap : Tree → List Char
  | .mark _ true _ => []
  | _ => [' ']

theorem toList_textList_cons (head next : Tree) (tail : List Tree) :
    (textList (head :: next :: tail)).toList =
      head.text.toList ++ (head.gap ++ (textList (next :: tail)).toList) := by
  have behind : textList (head :: next :: tail) =
      head.text ++ String.ofList head.gap ++ textList (next :: tail) := by
    cases head with
    | mark symbol joint position => cases joint <;> rfl
    | _ => rfl
  rw [behind, String.toList_append, String.toList_append, String.toList_ofList, List.append_assoc]

/-- What is written between the delimiters of a group and behind it, up to its closing one. -/
def innerText (delimiter : Delimiter) (content : List Tree) : List Char :=
  match delimiter with
  | .parenthesis => (textList content).toList ++ [')']
  | .bracket => (textList content).toList ++ [']']
  | .brace => ' ' :: if content.isEmpty then ['\x7d'] else (textList content).toList ++ [' ', '\x7d']

theorem toList_text_group (delimiter : Delimiter) (content : List Tree) (position : Position) :
    (group delimiter content position).text.toList =
      (match delimiter with | .parenthesis => '(' | .bracket => '[' | .brace => '{') ::
        innerText delimiter content := by
  cases delimiter with
  | brace => cases content <;> simp [text, innerText]
  | _ => simp [text, innerText, Delimiter.opening, Delimiter.closing]

end Tree

/-! ## Names -/

/-- Whether a word can hold this character, that between the mark of a raw name and its text
included. -/
def isNameCharacter (letter : Char) : Bool := continuesIdentifier letter || letter = '#'

namespace Name

theorem toList_spelling (name : Name) :
    name.spelling.toList = (if name.raw then ['r', '#'] else []) ++ name.text.toList := by
  rcases name with ⟨raw, text⟩
  cases raw <;> simp [spelling]

variable {name other : Name}

theorem isNameCharacter_of_mem_spelling (identifier : isIdentifierText name.text.toList = true) :
    ∀ letter ∈ name.spelling.toList, isNameCharacter letter = true := by
  intro letter among
  rw [toList_spelling, List.mem_append] at among
  rcases among with inMark | inText
  · have all : ['r', '#'].all isNameCharacter = true := by decide
    split at inMark
    · exact List.all_eq_true.mp all letter inMark
    · cases inMark
  · rw [isNameCharacter, continuesIdentifier_of_mem identifier letter inText, Bool.true_or]

/-- An identifier, raw or not, begins like one. -/
theorem exists_toList_spelling (identifier : isIdentifierText name.text.toList = true) :
    ∃ first rest, name.spelling.toList = first :: rest ∧ startsIdentifier first = true := by
  rw [toList_spelling]
  split
  · exact ⟨'r', '#' :: name.text.toList, rfl, by decide⟩
  · cases text : name.text.toList with
    | nil =>
      rw [text] at identifier
      cases identifier
    | cons first rest =>
      rw [text, isIdentifierText, Bool.and_eq_true] at identifier
      exact ⟨first, rest, rfl, identifier.1⟩

/-- Identifiers with one spelling are the same, raw or not. -/
theorem eq_of_spelling (identifier : isIdentifierText name.text.toList = true)
    (otherIdentifier : isIdentifierText other.text.toList = true)
    (same : name.spelling = other.spelling) : name = other := by
  have noSign {text rest : List Char} (identifier : isIdentifierText text = true) :
      text ≠ ['r', '#'] ++ rest := by
    rintro rfl
    exact absurd (continuesIdentifier_of_mem identifier '#' (by simp)) (by decide)
  have letters := congrArg String.toList same
  rw [toList_spelling, toList_spelling] at letters
  rcases name with ⟨raw, text⟩
  rcases other with ⟨otherRaw, otherText⟩
  cases raw <;> cases otherRaw
  · exact congrArg (Name.mk false) (String.toList_inj.mp letters)
  · exact absurd letters (noSign identifier)
  · exact absurd letters.symm (noSign otherIdentifier)
  · exact congrArg (Name.mk true) (String.toList_inj.mp (List.append_cancel_left letters))

end Name

/-! ## What is no literal -/

theorem rawLength_eq_none {admits : Char → Bool} {letters : List Char}
    (unopened : ∀ first ∈ (letters.dropWhile (· = '#')).head?, first ≠ '"') :
    rawLength admits letters = none := by
  dsimp only [rawLength]
  rw [drop_length_takeWhile]
  split
  · rename_i rest opens
    rw [opens] at unopened
    exact absurd rfl (unopened '"' rfl)
  · rfl

theorem numberLength_eq_none {letters : List Char}
    (noDigit : letters.head?.any Char.isDigit = false) : numberLength letters = none := by
  cases measured : numberLength letters with
  | none => rfl
  | some found =>
    rw [isDigit_of_numberLength measured] at noDigit
    cases noDigit

/-- Most characters begin no literal. -/
theorem literalLength_eq_none {first : Char} (noDigit : first.isDigit = false)
    (noOpening : first ∉ ['"', 'r', 'b', 'c', '\'', '(']) (rest : List Char) :
    literalLength (first :: rest) = none := by
  unfold literalLength
  dsimp only
  split
  all_goals first
    | exact numberLength_eq_none noDigit
    | (rename_i same; obtain ⟨rfl, -⟩ := List.cons.inj same; exact absurd (by decide) noOpening)

/-- Neither the letters of a name nor what breaks off holds a quote that could open a literal. -/
theorem head?_ne_of_foreign {quote : Char} (foreign : isNameCharacter quote = false)
    (unbroken : quote ∉ [' ', ')', ']']) {letters behind : List Char}
    (all : ∀ letter ∈ letters, isNameCharacter letter = true) (breaks : Breaks behind) :
    ∀ letter ∈ (letters ++ behind).head?, letter ≠ quote := by
  rintro letter isFirst rfl
  cases letters with
  | nil => exact unbroken (breaks letter isFirst)
  | cons head tail =>
    obtain rfl : head = letter := by simpa using isFirst
    rw [all head List.mem_cons_self] at foreign
    cases foreign

theorem rawLength_name (admits : Char → Bool) {letters behind : List Char}
    (all : ∀ letter ∈ letters, isNameCharacter letter = true) (breaks : Breaks behind) :
    rawLength admits (letters ++ behind) = none := by
  apply rawLength_eq_none
  have noSign : behind.dropWhile (· = '#') = behind := by
    cases behind with
    | nil => rfl
    | cons head tail =>
      have differ : head ≠ '#' := by
        rintro rfl
        exact absurd (breaks _ rfl) (by decide)
      simp [differ]
  rw [List.dropWhile_append]
  split
  · rw [noSign]
    exact head?_ne_of_foreign (by decide) (by decide) (List.forall_mem_nil _) breaks
  · exact head?_ne_of_foreign (by decide) (by decide)
      (fun letter among => all letter ((List.dropWhile_suffix _).subset among)) breaks

theorem openedLength_eq_none {body : List Char → Option Nat} {letters : List Char} {opening : Nat}
    (none : body (letters.drop opening) = none) : openedLength letters opening body = .none := by
  rw [openedLength, none, Option.map_none]

/-- A name is no literal, in front of whatever breaks off. -/
theorem literalLength_name {first : Char} {rest behind : List Char}
    (starts : startsIdentifier first = true)
    (all : ∀ letter ∈ rest, isNameCharacter letter = true) (breaks : Breaks behind) :
    literalLength (first :: (rest ++ behind)) = none := by
  have fromSecond {second : Char} {tail : List Char} (unbroken : second ∉ [' ', ')', ']'])
      (same : rest ++ behind = second :: tail) :
      ∃ letters, tail = letters ++ behind ∧ ∀ letter ∈ letters, isNameCharacter letter = true := by
    cases rest with
    | nil => exact absurd (breaks second (by rw [← List.nil_append behind, same]; rfl)) unbroken
    | cons head letters =>
      obtain ⟨-, rfl⟩ := List.cons.inj same
      exact ⟨letters, rfl, (List.forall_mem_cons.mp all).2⟩
  have noQuote {quote : Char} {tail : List Char} (foreign : isNameCharacter quote = false)
      (unbroken : quote ∉ [' ', ')', ']']) : rest ++ behind ≠ quote :: tail := by
    intro same
    exact head?_ne_of_foreign foreign unbroken all breaks quote (by rw [same]; rfl) rfl
  unfold literalLength
  dsimp only
  split
  · rename_i same
    obtain ⟨rfl, -⟩ := List.cons.inj same
    exact absurd starts (by decide)
  · rename_i same
    obtain ⟨rfl, rfl⟩ := List.cons.inj same
    rw [openedLength_eq_none (rawLength_name _ all breaks)]
    rfl
  · rename_i same
    obtain ⟨rfl, behindFirst⟩ := List.cons.inj same
    exact absurd behindFirst (noQuote (by decide) (by decide))
  · rename_i same
    obtain ⟨rfl, behindFirst⟩ := List.cons.inj same
    obtain ⟨letters, rfl, allLetters⟩ := fromSecond (by decide) behindFirst
    rw [behindFirst, openedLength_eq_none (rawLength_name _ allLetters breaks)]
    rfl
  · rename_i same
    obtain ⟨rfl, behindFirst⟩ := List.cons.inj same
    exact absurd behindFirst (noQuote (by decide) (by decide))
  · rename_i same
    obtain ⟨rfl, behindFirst⟩ := List.cons.inj same
    exact absurd behindFirst (noQuote (by decide) (by decide))
  · rename_i same
    obtain ⟨rfl, behindFirst⟩ := List.cons.inj same
    obtain ⟨letters, rfl, allLetters⟩ := fromSecond (by decide) behindFirst
    rw [behindFirst, openedLength_eq_none (rawLength_name _ allLetters breaks)]
    rfl
  · rename_i same
    obtain ⟨rfl, -⟩ := List.cons.inj same
    exact absurd starts (by decide)
  · rename_i same
    obtain ⟨rfl, -⟩ := List.cons.inj same
    exact absurd starts (by decide)
  · exact numberLength_eq_none (isDigit_of_startsIdentifier starts)

namespace Tree

/-! ## Signs -/

/-- What the front of a text is the front of. -/
inductive Sign where
  | literal (kind : LiteralKind) (length : Nat)
  | word (letters : List Char)
  | mark (symbol : Char)
  | quote
  | opening (delimiter : Delimiter)

/-- What stands at the front of a text that begins with no literal. -/
def firstSign : List Char → Option Sign
  | [] => none
  | '\'' :: _ => some .quote
  | '(' :: _ => some (.opening .parenthesis)
  | '[' :: _ => some (.opening .bracket)
  | '{' :: _ => some (.opening .brace)
  | first :: rest =>
    if startsIdentifier first then some (.word ((first :: rest).takeWhile isNameCharacter))
    else some (.mark first)

/-- What stands at the front of a text. -/
def signAhead (letters : List Char) : Option Sign :=
  match literalLength letters with
  | some (kind, length) => some (.literal kind length)
  | none => firstSign letters

def sign : Tree → Sign
  | .word name _ => .word name.spelling.toList
  | .mark symbol _ _ => .mark symbol
  | .literal token _ => .literal token.kind token.spelling.toList.length
  | .quoted _ _ => .quote
  | .group delimiter _ _ => .opening delimiter

/-- What stands behind a tree that is told by its text: any text behind a mark, what breaks off
behind anything else. -/
def Stands (tree : Tree) (behind : List Char) : Prop :=
  match tree with
  | .mark _ _ _ => True
  | _ => Breaks behind

theorem signAhead_mark {symbol : Char} (isMark : symbol ∈ markCharacters) (noQuote : symbol ≠ '\'')
    (behind : List Char) : signAhead (symbol :: behind) = some (.mark symbol) := by
  have facts : (markCharacters.all fun symbol => decide (symbol ≠ '\'' →
      symbol.isDigit = false ∧ startsIdentifier symbol = false ∧
        symbol ∉ ['"', 'r', 'b', 'c', '\'', '(', '[', '{'])) = true := by decide
  obtain ⟨noDigit, noStart, others⟩ :=
    of_decide_eq_true (List.all_eq_true.mp facts symbol isMark) noQuote
  have noLiteral : literalLength (symbol :: behind) = none :=
    literalLength_eq_none noDigit (fun among => others (by revert among; simp; grind)) behind
  have distinct (other : Char) (among : other ∈ ['\'', '(', '[', '{']) : symbol ≠ other := by
    rintro rfl
    exact others (by revert among; simp; grind)
  rw [signAhead, noLiteral]
  dsimp only
  rw [firstSign, if_neg (by simp [noStart])]
  · exact distinct '\'' (by simp)
  · exact distinct '(' (by simp)
  · exact distinct '[' (by simp)
  · exact distinct '{' (by simp)

theorem signAhead_name {name : Name} (identifier : isIdentifierText name.text.toList = true)
    {behind : List Char} (breaks : Breaks behind) :
    signAhead (name.spelling.toList ++ behind) = some (.word name.spelling.toList) := by
  obtain ⟨first, rest, letters, starts⟩ := name.exists_toList_spelling identifier
  have all := name.isNameCharacter_of_mem_spelling identifier
  have taken : (name.spelling.toList ++ behind).takeWhile isNameCharacter =
      name.spelling.toList :=
    takeWhile_append_of_head? (fun next isNext => .inr (breaks next isNext)) all (by decide)
      (show ∀ next ∈ ([] : List Char).head?, isNameCharacter next = false by simp)
  rw [letters] at all taken ⊢
  have distinct (other : Char) (noStart : startsIdentifier other = false) : first ≠ other := by
    rintro rfl
    rw [starts] at noStart
    cases noStart
  rw [signAhead, List.cons_append,
    literalLength_name starts (List.forall_mem_cons.mp all).2 breaks]
  dsimp only
  rw [firstSign, if_pos starts, ← List.cons_append, taken]
  · exact distinct '\'' (by decide)
  · exact distinct '(' (by decide)
  · exact distinct '[' (by decide)
  · exact distinct '{' (by decide)

/-- A quote in front of a name is no quoted character. -/
theorem signAhead_quote {letters behind : List Char} (begins : BeginsLikeName letters)
    (breaks : Breaks behind) : signAhead ('\'' :: (letters ++ behind)) = some .quote := by
  obtain ⟨first, rest, rfl, starts, noQuote⟩ := begins
  have noEscape : first ≠ '\\' := by
    rintro rfl
    exact absurd starts (by decide)
  have unit : Quoting.text.characterUnit (first :: (rest ++ behind)) = some 1 := by
    rw [Quoting.characterUnit]
    · rfl
    · exact fun _ same _ => noEscape same
    · exact fun _ same _ => noEscape same
    · exact noEscape
  have unclosed : (rest ++ behind).head? ≠ some '\'' := by
    cases rest with
    | nil => exact fun isFirst => absurd (breaks '\'' isFirst) (by decide)
    | cons => exact noQuote
  have noCharacter : characterLength .text (first :: (rest ++ behind)) = none := by
    rw [characterLength, unit, Option.bind_some, List.drop_one, List.tail_cons, if_neg unclosed]
  have noLiteral : literalLength ('\'' :: (first :: rest ++ behind)) = none := by
    change (openedLength _ 1 (characterLength .text)).map _ = none
    rw [openedLength]
    exact congrArg (Option.map _) (congrArg (Option.map _) noCharacter)
  rw [signAhead, noLiteral]
  rfl

theorem beginsLikeName_spelling {name : Name} (identifier : isIdentifierText name.text.toList = true) :
    BeginsLikeName name.spelling.toList := by
  obtain ⟨first, rest, letters, starts⟩ := name.exists_toList_spelling identifier
  have all := name.isNameCharacter_of_mem_spelling identifier
  refine ⟨first, rest, letters, starts, fun isFirst => ?_⟩
  obtain ⟨tail, rfl⟩ := List.head?_eq_some_iff.mp isFirst
  exact absurd (all '\'' (by rw [letters]; simp)) (by decide)

/-! ## Trees in a list -/

/-- What stands behind the last tree of a list: nothing, or the end of the group around it. -/
def ClosesGroup (behind : List Char) : Prop :=
  behind = [] ∨ (∃ rest, behind = ')' :: rest) ∨ (∃ rest, behind = ']' :: rest) ∨
    ∃ rest, behind = ' ' :: '\x7d' :: rest

theorem ClosesGroup.breaks {behind : List Char} (closes : ClosesGroup behind) : Breaks behind := by
  rcases closes with rfl | ⟨rest, rfl⟩ | ⟨rest, rfl⟩ | ⟨rest, rfl⟩
  · exact .nil
  all_goals exact .cons (by decide) _

theorem stands_of_breaks {tree : Tree} {behind : List Char} (breaks : Breaks behind) :
    tree.Stands behind := by
  cases tree <;> first | exact trivial | exact breaks

theorem stands_gap (tree : Tree) (rest : List Char) : tree.Stands (tree.gap ++ rest) := by
  cases tree with
  | mark => trivial
  | _ => exact Breaks.cons (by decide) rest

/-- What stands behind the first tree of a list. -/
def behindFirst (head : Tree) (tail : List Tree) (behind : List Char) : List Char :=
  if tail.isEmpty then behind else head.gap ++ ((textList tail).toList ++ behind)

theorem behindFirst_of_ne_nil {tail : List Tree} (notEmpty : tail ≠ []) (head : Tree)
    (behind : List Char) :
    behindFirst head tail behind = head.gap ++ ((textList tail).toList ++ behind) :=
  if_neg (by simpa using notEmpty)

theorem toList_textList_append (head : Tree) (tail : List Tree) (behind : List Char) :
    (textList (head :: tail)).toList ++ behind = head.text.toList ++ behindFirst head tail behind := by
  cases tail with
  | nil => simp [textList, behindFirst]
  | cons next rest => simp [toList_textList_cons, behindFirst]

theorem ClosesGroup.stands {behind : List Char} (closes : ClosesGroup behind) (head : Tree)
    (tail : List Tree) : head.Stands (behindFirst head tail behind) := by
  rw [behindFirst]
  split
  · exact stands_of_breaks closes.breaks
  · exact stands_gap _ _

theorem ClosesGroup.signAhead_ne {behind : List Char} (closes : ClosesGroup behind) :
    signAhead behind = none ∨ ∃ symbol, signAhead behind = some (.mark symbol) ∧
      symbol ∉ markCharacters := by
  rcases closes with rfl | ⟨rest, rfl⟩ | ⟨rest, rfl⟩ | ⟨rest, rfl⟩
  · exact .inl rfl
  · refine .inr ⟨')', ?_, by decide⟩
    rw [signAhead, literalLength_eq_none (by decide) (by decide)]
    rfl
  · refine .inr ⟨']', ?_, by decide⟩
    rw [signAhead, literalLength_eq_none (by decide) (by decide)]
    rfl
  · refine .inr ⟨' ', ?_, by decide⟩
    rw [signAhead, literalLength_eq_none (by decide) (by decide)]
    rfl

theorem Legible.mem_markCharacters {tree : Tree} (legible : tree.Legible) {symbol : Char}
    (isMark : tree.sign = .mark symbol) : symbol ∈ markCharacters := by
  cases legible <;> cases isMark
  assumption

/-- The sign of a first tree, if nothing but its own text decides it. -/
def Tells (tree : Tree) : Prop :=
  ∀ behind, tree.Stands behind → signAhead (tree.text.toList ++ behind) = some tree.sign

theorem signAhead_textList {trees : List Tree} (tells : ∀ tree ∈ trees, tree.Tells)
    {behind : List Char} (closes : ClosesGroup behind) :
    trees = [] ∧ signAhead ((textList trees).toList ++ behind) = signAhead behind ∨
      ∃ head tail, trees = head :: tail ∧
        signAhead ((textList trees).toList ++ behind) = some head.sign := by
  cases trees with
  | nil => exact .inl ⟨rfl, rfl⟩
  | cons head tail =>
    refine .inr ⟨head, tail, rfl, ?_⟩
    rw [toList_textList_append]
    exact tells head List.mem_cons_self _ (closes.stands head tail)

/-- A text that begins like a mark or a word is that of trees that begin with it. -/
theorem exists_cons_of_signAhead {trees : List Tree} (tells : ∀ tree ∈ trees, tree.Tells)
    {behind letters : List Char} (closes : ClosesGroup behind) {sign : Sign}
    (same : (textList trees).toList ++ behind = letters) (ahead : signAhead letters = some sign)
    (noEnd : ∀ symbol, symbol ∉ markCharacters → sign ≠ .mark symbol) :
    ∃ head tail, trees = head :: tail ∧ head.sign = sign ∧
      letters = head.text.toList ++ behindFirst head tail behind := by
  rcases signAhead_textList tells closes with ⟨rfl, none⟩ | ⟨head, tail, rfl, isSign⟩
  · rw [same, ahead] at none
    rcases closes.signAhead_ne with ended | ⟨symbol, ended, foreign⟩
    · rw [ended] at none
      cases none
    · rw [ended] at none
      exact absurd (Option.some.inj none) (noEnd symbol foreign)
  · rw [same, ahead] at isSign
    exact ⟨head, tail, rfl, (Option.some.inj isSign).symm, by rw [← same, toList_textList_append]⟩

/-- A text that begins with a mark and goes on without a gap is that of trees that do. -/
theorem exists_cons_of_mark {trees : List Tree} (tells : ∀ tree ∈ trees, tree.Tells)
    {behind rest : List Char} (closes : ClosesGroup behind) {symbol next : Char}
    (isMark : symbol ∈ markCharacters) (noQuote : symbol ≠ '\'')
    (goesOn : next ∉ [' ', ')', ']'])
    (same : (textList trees).toList ++ behind = symbol :: next :: rest) :
    ∃ tail, (∀ tree ∈ tail, tree.Tells) ∧ (textList tail).toList ++ behind = next :: rest := by
  obtain ⟨head, tail, rfl, isSign, letters⟩ := exists_cons_of_signAhead tells closes same
    (signAhead_mark isMark noQuote _) fun other foreign sameSign => by
      cases sameSign
      exact foreign isMark
  refine ⟨tail, fun tree among => tells tree (.tail _ among), ?_⟩
  cases head with
  | mark found joint position =>
    cases isSign
    have behindMark : next :: rest = behindFirst (.mark symbol joint position) tail behind := by
      simpa [text] using letters
    rw [behindFirst] at behindMark
    split at behindMark
    · exact absurd (closes.breaks next (by rw [← behindMark]; rfl)) goesOn
    · cases joint with
      | true => exact behindMark.symm
      | false =>
        obtain ⟨rfl, -⟩ := List.cons.inj behindMark
        exact absurd List.mem_cons_self goesOn
  | _ => cases isSign

/-- The marks of a comment never stand in front of a word and more marks without a gap: no group is
taken for a literal that could not be written. -/
theorem not_placeholder {content : List Tree} (tells : ∀ tree ∈ content, tree.Tells)
    (behind : List Char) :
    placeholderText.toList.isPrefixOf ('(' :: (innerText .parenthesis content ++ behind)) =
      false := by
  apply Bool.eq_false_iff.mpr
  intro isPlaceholder
  obtain ⟨rest, same⟩ := List.isPrefixOf_iff_prefix.mp isPlaceholder
  have closes : ClosesGroup (')' :: behind) := .inr (.inl ⟨behind, rfl⟩)
  have placeholder : placeholderText.toList =
      ['(', '/', '*', 'E', 'R', 'R', 'O', 'R', '*', '/', ')'] := by
    decide
  have inner : (textList content).toList ++ ')' :: behind =
      '/' :: '*' :: 'E' :: (['R', 'R', 'O', 'R'] ++ '*' :: '/' :: ')' :: rest) := by
    rw [placeholder, innerText, List.append_assoc] at same
    exact (List.cons.inj same).2.symm
  obtain ⟨fromStar, tellsStar, inner⟩ :=
    exists_cons_of_mark tells closes (by decide) (by decide) (by decide) inner
  obtain ⟨fromWord, tellsWord, inner⟩ :=
    exists_cons_of_mark tellsStar closes (by decide) (by decide) (by decide) inner
  have isWord : signAhead ('E' :: (['R', 'R', 'O', 'R'] ++ '*' :: '/' :: ')' :: rest)) =
      some (.word ['E', 'R', 'R', 'O', 'R']) := by
    rw [signAhead, literalLength_eq_none (by decide) (by decide)]
    simp [firstSign, startsIdentifier, isNameCharacter, continuesIdentifier]
  obtain ⟨head, tail, rfl, isSign, letters⟩ :=
    exists_cons_of_signAhead tellsWord closes inner isWord fun _ _ same => by cases same
  cases head with
  | word name position =>
    have stands : Breaks (behindFirst (.word name position) tail (')' :: behind)) :=
      closes.stands (.word name position) tail
    have spelling : name.spelling.toList = ['E', 'R', 'R', 'O', 'R'] := Sign.word.inj isSign
    rw [text, spelling] at letters
    have broken : '*' :: '/' :: ')' :: rest =
        behindFirst (.word name position) tail (')' :: behind) := by
      simpa using letters
    rw [← broken] at stands
    exact absurd (stands '*' rfl) (by decide)
  | _ => cases isSign

/-- The text of a tree says what the tree is. -/
theorem Legible.tells {tree : Tree} (legible : tree.Legible) : tree.Tells := by
  induction legible with
  | word identifier position => exact fun behind breaks => signAhead_name identifier breaks
  | @mark symbol isMark noQuote joint position =>
    intro behind _
    have letters : (Tree.mark symbol joint position).text.toList = [symbol] := by simp [text]
    rw [letters]
    exact signAhead_mark isMark noQuote behind
  | literal readsBack position =>
    intro behind breaks
    rw [text, signAhead, readsBack behind breaks]
    rfl
  | lifetime identifier inner position =>
    intro behind breaks
    rw [text, text, String.toList_append, List.append_assoc]
    change signAhead ('\'' :: (_ ++ behind)) = _
    exact signAhead_quote (beginsLikeName_spelling identifier) breaks
  | quotedLiteral readsBack begins inner position =>
    intro behind breaks
    rw [text, text, String.toList_append, List.append_assoc]
    change signAhead ('\'' :: (_ ++ behind)) = _
    exact signAhead_quote begins breaks
  | group delimiter all position induction =>
    intro behind breaks
    rw [toList_text_group, List.cons_append, signAhead]
    cases delimiter with
    | parenthesis =>
      have noLiteral : ∀ rest, placeholderText.toList.isPrefixOf ('(' :: rest) = false →
          literalLength ('(' :: rest) = none := by
        intro rest no
        change (if _ then _ else none) = none
        rw [no]
        rfl
      rw [noLiteral _ (not_placeholder induction behind)]
      rfl
    | bracket =>
      rw [literalLength_eq_none (by decide) (by decide)]
      rfl
    | brace =>
      rw [literalLength_eq_none (by decide) (by decide)]
      rfl

/-! ## Trees by their texts -/

/-- The tree at no particular place, with nothing behind it that it could be joint with. -/
def alone : Tree → Tree
  | .mark symbol _ _ => .mark symbol false .start
  | tree => tree.settled

theorem settledAll_singleton (tree : Tree) : settledAll [tree] = [tree.alone] := by
  cases tree <;> rfl

theorem settledAll_cons {tail : List Tree} (head : Tree) (notEmpty : tail ≠ []) :
    settledAll (head :: tail) = head.settled :: settledAll tail := by
  obtain ⟨next, rest, rfl⟩ := List.exists_cons_of_ne_nil notEmpty
  cases head <;> rfl

mutual
theorem Legible.settled : ∀ {tree : Tree}, tree.Legible → tree.settled.Legible
  | _, .word identifier _ => .word identifier .start
  | _, .mark isMark noQuote joint _ => .mark isMark noQuote joint .start
  | _, .literal readsBack _ => .literal readsBack .start
  | _, .lifetime identifier _ _ => .lifetime identifier .start .start
  | _, .quotedLiteral readsBack begins _ _ => .quotedLiteral readsBack begins .start .start
  | .group _ content _, .group delimiter all _ =>
    .group delimiter (legible_settledAll content all) .start

theorem legible_settledAll : ∀ trees : List Tree, (∀ tree ∈ trees, tree.Legible) →
    ∀ tree ∈ settledAll trees, tree.Legible
  | [], all => all
  | [tree], all => by
    have only := List.forall_mem_singleton.mp all
    have settled := only.settled
    rw [settledAll_singleton, List.forall_mem_singleton]
    cases only with
    | mark isMark noQuote joint position => exact .mark isMark noQuote false .start
    | _ => exact settled
  | head :: next :: rest, all => by
    rw [List.forall_mem_cons] at all
    rw [settledAll_cons head (List.cons_ne_nil next rest), List.forall_mem_cons]
    exact ⟨all.1.settled, legible_settledAll (next :: rest) all.2⟩
end

/-- A tree without its joint, and the gap behind it. -/
theorem settled_eq_of_alone {tree other : Tree} (same : tree.alone = other.alone)
    (sameGap : tree.gap = other.gap) : tree.settled = other.settled := by
  have unmarked {tree : Tree} (noMark : ∀ symbol joint position, tree ≠ .mark symbol joint position) :
      tree.alone = tree.settled := by
    cases tree <;> first | rfl | exact absurd rfl (noMark _ _ _)
  have markOf {tree : Tree} {symbol : Char} (isMark : tree.alone = .mark symbol false .start) :
      ∃ joint position, tree = .mark symbol joint position := by
    cases tree with
    | mark => cases isMark; exact ⟨_, _, rfl⟩
    | _ => cases isMark
  by_cases isMark : ∃ symbol joint position, tree = .mark symbol joint position
  · obtain ⟨symbol, joint, position, rfl⟩ := isMark
    obtain ⟨otherJoint, otherPosition, rfl⟩ := markOf same.symm
    cases joint <;> cases otherJoint <;> first | rfl | cases sameGap
  · rw [← unmarked fun symbol joint position is => isMark ⟨symbol, joint, position, is⟩, same]
    refine unmarked fun symbol joint position is => ?_
    subst is
    obtain ⟨joint, position, is⟩ := markOf same
    exact isMark ⟨symbol, joint, position, is⟩

section Leaves

variable {name otherName : Name} {token other : Literal} {behind otherBehind : List Char}

theorem name_eq_of_text (identifier : isIdentifierText name.text.toList = true)
    (otherIdentifier : isIdentifierText otherName.text.toList = true) (breaks : Breaks behind)
    (otherBreaks : Breaks otherBehind)
    (same : name.spelling.toList ++ behind = otherName.spelling.toList ++ otherBehind) :
    name = otherName ∧ behind = otherBehind := by
  have ahead := signAhead_name identifier breaks
  rw [same, signAhead_name otherIdentifier otherBreaks] at ahead
  have letters : name.spelling.toList = otherName.spelling.toList :=
    (Sign.word.inj (Option.some.inj ahead)).symm
  rw [letters] at same
  exact ⟨Name.eq_of_spelling identifier otherIdentifier (String.toList_inj.mp letters),
    List.append_cancel_left same⟩

theorem literal_eq_of_text (readsBack : token.ReadsBack) (otherReadsBack : other.ReadsBack)
    (breaks : Breaks behind) (otherBreaks : Breaks otherBehind)
    (same : token.spelling.toList ++ behind = other.spelling.toList ++ otherBehind) :
    token = other ∧ behind = otherBehind := by
  have measured := readsBack behind breaks
  rw [same, otherReadsBack otherBehind otherBreaks] at measured
  obtain ⟨kind, length⟩ := Prod.mk.inj (Option.some.inj measured)
  obtain ⟨letters, sameBehind⟩ := List.append_inj same length.symm
  rcases token with ⟨tokenKind, spelling⟩
  rcases other with ⟨otherKind, otherSpelling⟩
  obtain rfl : otherKind = tokenKind := kind
  obtain rfl := String.toList_inj.mp letters
  exact ⟨rfl, sameBehind⟩

theorem name_ne_literal (identifier : isIdentifierText name.text.toList = true)
    (readsBack : token.ReadsBack) (breaks : Breaks behind) (otherBreaks : Breaks otherBehind) :
    name.spelling.toList ++ behind ≠ token.spelling.toList ++ otherBehind := by
  intro same
  have ahead := signAhead_name identifier breaks
  rw [same, signAhead, readsBack otherBehind otherBreaks] at ahead
  cases ahead

end Leaves

/-- The text of trees begins with nothing that ends a group. -/
theorem textList_append_ne {trees : List Tree} (legible : ∀ tree ∈ trees, tree.Legible)
    (notEmpty : trees ≠ []) {behind : List Char} (closes : ClosesGroup behind) {first : Char}
    (ends : first ∈ [' ', ')', ']', '\x7d']) (rest : List Char) :
    (textList trees).toList ++ behind ≠ first :: rest := by
  intro same
  have facts : ([' ', ')', ']', '\x7d'].all fun first => decide (first.isDigit = false ∧
      first ∉ ['"', 'r', 'b', 'c', '\'', '('] ∧ first ∉ markCharacters)) = true := by decide
  obtain ⟨noDigit, noOpening, foreign⟩ := of_decide_eq_true (List.all_eq_true.mp facts first ends)
  have ahead : signAhead (first :: rest) = some (.mark first) := by
    rw [signAhead, literalLength_eq_none noDigit noOpening]
    simp only [List.mem_cons, List.not_mem_nil, or_false] at ends
    rcases ends with rfl | rfl | rfl | rfl <;> rfl
  rcases signAhead_textList (fun tree among => (legible tree among).tells) closes with
    ⟨rfl, -⟩ | ⟨head, tail, rfl, isSign⟩
  · exact notEmpty rfl
  · rw [same, ahead] at isSign
    exact foreign ((legible head List.mem_cons_self).mem_markCharacters
      (Option.some.inj isSign).symm)

/-- The lists are told apart by their texts, up to what stands behind. -/
def ToldApart (trees others : List Tree) : Prop :=
  ∀ {behind otherBehind}, ClosesGroup behind → ClosesGroup otherBehind →
    (textList trees).toList ++ behind = (textList others).toList ++ otherBehind →
    settledAll trees = settledAll others ∧ behind = otherBehind

theorem ToldApart.innerText {content others : List Tree} (told : ToldApart content others)
    (legible : ∀ tree ∈ content, tree.Legible) (otherLegible : ∀ tree ∈ others, tree.Legible)
    {delimiter : Delimiter} {behind otherBehind : List Char}
    (same : innerText delimiter content ++ behind = innerText delimiter others ++ otherBehind) :
    settledAll content = settledAll others ∧ behind = otherBehind := by
  cases delimiter with
  | parenthesis =>
    simp only [Tree.innerText, List.append_assoc] at same
    obtain ⟨settled, closing⟩ := told (.inr (.inl ⟨_, rfl⟩)) (.inr (.inl ⟨_, rfl⟩)) same
    exact ⟨settled, (List.cons.inj closing).2⟩
  | bracket =>
    simp only [Tree.innerText, List.append_assoc] at same
    obtain ⟨settled, closing⟩ := told (.inr (.inr (.inl ⟨_, rfl⟩))) (.inr (.inr (.inl ⟨_, rfl⟩))) same
    exact ⟨settled, (List.cons.inj closing).2⟩
  | brace =>
    have opened {content : List Tree} (behind : List Char) (notEmpty : content ≠ []) :
        Tree.innerText .brace content ++ behind =
          ' ' :: ((textList content).toList ++ ' ' :: '\x7d' :: behind) := by
      rw [Tree.innerText, if_neg (by simpa using notEmpty)]
      simp
    have closes (behind : List Char) : ClosesGroup (' ' :: '\x7d' :: behind) :=
      .inr (.inr (.inr ⟨behind, rfl⟩))
    by_cases isEmpty : content = [] <;> by_cases otherIsEmpty : others = []
    · subst isEmpty otherIsEmpty
      exact ⟨rfl, List.append_cancel_left same⟩
    · subst isEmpty
      rw [opened _ otherIsEmpty] at same
      exact absurd (List.cons.inj same).2.symm
        (textList_append_ne otherLegible otherIsEmpty (closes _) (by decide) _)
    · subst otherIsEmpty
      rw [opened _ isEmpty] at same
      exact absurd (List.cons.inj same).2
        (textList_append_ne legible isEmpty (closes _) (by decide) _)
    · rw [opened _ isEmpty, opened _ otherIsEmpty] at same
      obtain ⟨settled, closing⟩ := told (closes _) (closes _) (List.cons.inj same).2
      exact ⟨settled, (List.cons.inj (List.cons.inj closing).2).2⟩

/-- Trees whose texts begin a text alike are the same, as long as what they hold is told apart. -/
theorem alone_eq_of_text {tree other : Tree} (legible : tree.Legible) (otherLegible : other.Legible)
    {behind otherBehind : List Char} (stands : tree.Stands behind)
    (otherStands : other.Stands otherBehind)
    (inner : ∀ delimiter content position otherPosition, tree = .group delimiter content position →
      ∀ otherContent, other = .group delimiter otherContent otherPosition →
        ToldApart content otherContent)
    (same : tree.text.toList ++ behind = other.text.toList ++ otherBehind) :
    tree.alone = other.alone ∧ behind = otherBehind := by
  have sameSign : tree.sign = other.sign := by
    have ahead := legible.tells behind stands
    rw [same, otherLegible.tells otherBehind otherStands] at ahead
    exact (Option.some.inj ahead).symm
  have unquoted {letters otherLetters : List Char}
      (quoted : '\'' :: (letters ++ behind) = '\'' :: (otherLetters ++ otherBehind)) :
      letters ++ behind = otherLetters ++ otherBehind := (List.cons.inj quoted).2
  cases legible with
  | word identifier position =>
    cases otherLegible with
    | word otherIdentifier otherPosition =>
      obtain ⟨rfl, sameBehind⟩ :=
        name_eq_of_text identifier otherIdentifier stands otherStands same
      exact ⟨rfl, sameBehind⟩
    | _ => cases sameSign
  | mark isMark noQuote joint position =>
    cases otherLegible with
    | mark =>
      obtain rfl := Sign.mark.inj sameSign
      simp only [text] at same
      exact ⟨rfl, List.append_cancel_left same⟩
    | _ => cases sameSign
  | literal readsBack position =>
    cases otherLegible with
    | literal otherReadsBack otherPosition =>
      obtain ⟨rfl, sameBehind⟩ :=
        literal_eq_of_text readsBack otherReadsBack stands otherStands same
      exact ⟨rfl, sameBehind⟩
    | _ => cases sameSign
  | lifetime identifier innerPosition position =>
    cases otherLegible with
    | lifetime otherIdentifier =>
      simp only [text, String.toList_append, List.append_assoc] at same
      obtain ⟨rfl, sameBehind⟩ :=
        name_eq_of_text identifier otherIdentifier stands otherStands (unquoted same)
      exact ⟨rfl, sameBehind⟩
    | quotedLiteral otherReadsBack =>
      simp only [text, String.toList_append, List.append_assoc] at same
      exact absurd (unquoted same) (name_ne_literal identifier otherReadsBack stands otherStands)
    | _ => cases sameSign
  | quotedLiteral readsBack begins innerPosition position =>
    cases otherLegible with
    | lifetime otherIdentifier =>
      simp only [text, String.toList_append, List.append_assoc] at same
      exact absurd (unquoted same).symm
        (name_ne_literal otherIdentifier readsBack otherStands stands)
    | quotedLiteral otherReadsBack =>
      simp only [text, String.toList_append, List.append_assoc] at same
      obtain ⟨rfl, sameBehind⟩ :=
        literal_eq_of_text readsBack otherReadsBack stands otherStands (unquoted same)
      exact ⟨rfl, sameBehind⟩
    | _ => cases sameSign
  | group delimiter all position =>
    cases otherLegible with
    | group otherDelimiter otherAll otherPosition =>
      obtain rfl := Sign.opening.inj sameSign
      rw [toList_text_group, toList_text_group] at same
      obtain ⟨settled, sameBehind⟩ :=
        ToldApart.innerText (inner _ _ _ _ rfl _ rfl) all otherAll (List.cons.inj same).2
      refine ⟨?_, sameBehind⟩
      simp only [alone, Tree.settled, settled]
    | _ => cases sameSign

/-- The end of a group is no text of trees, with or without a gap in front. -/
theorem ClosesGroup.ne_textList {trees : List Tree} (legible : ∀ tree ∈ trees, tree.Legible)
    (notEmpty : trees ≠ []) {behind otherBehind : List Char} (closes : ClosesGroup behind)
    (otherCloses : ClosesGroup otherBehind) :
    behind ≠ (textList trees).toList ++ otherBehind ∧
      behind ≠ ' ' :: ((textList trees).toList ++ otherBehind) := by
  constructor
  · rcases closes with rfl | ⟨rest, rfl⟩ | ⟨rest, rfl⟩ | ⟨rest, rfl⟩
    · intro same
      rcases signAhead_textList (fun tree among => (legible tree among).tells) otherCloses with
        ⟨rfl, -⟩ | ⟨head, tail, rfl, isSign⟩
      · exact notEmpty rfl
      · rw [← same] at isSign
        cases isSign
    all_goals exact fun same => textList_append_ne legible notEmpty otherCloses (by decide) _ same.symm
  · intro same
    rcases closes with rfl | ⟨rest, rfl⟩ | ⟨rest, rfl⟩ | ⟨rest, rfl⟩
    · cases same
    · exact absurd (List.cons.inj same).1 (by decide)
    · exact absurd (List.cons.inj same).1 (by decide)
    · exact textList_append_ne legible notEmpty otherCloses (by decide) _ (List.cons.inj same).2.symm

theorem gap_eq_nil_or (tree : Tree) : tree.gap = [] ∨ tree.gap = [' '] := by
  cases tree with
  | mark symbol joint position => cases joint <;> simp [gap]
  | _ => exact .inr rfl

/-- Behind first trees that are the same, up to the joint of a mark, go on lists that are told
apart. -/
theorem toldApart_cons {head other : Tree} {tail rest : List Tree} {behind otherBehind : List Char}
    (legible : ∀ tree ∈ tail, tree.Legible) (otherLegible : ∀ tree ∈ rest, tree.Legible)
    (closes : ClosesGroup behind) (otherCloses : ClosesGroup otherBehind)
    (told : ToldApart tail rest) (same : head.alone = other.alone)
    (sameBehind : behindFirst head tail behind = behindFirst other rest otherBehind) :
    settledAll (head :: tail) = settledAll (other :: rest) ∧ behind = otherBehind := by
  have unended {tree : Tree} {trees : List Tree} (legible : ∀ tree ∈ trees, tree.Legible)
      (notEmpty : trees ≠ []) {behind otherBehind : List Char} (closes : ClosesGroup behind)
      (otherCloses : ClosesGroup otherBehind) :
      behind ≠ tree.gap ++ ((textList trees).toList ++ otherBehind) := by
    rcases tree.gap_eq_nil_or with noGap | aGap
    · rw [noGap]
      exact (closes.ne_textList legible notEmpty otherCloses).1
    · rw [aGap]
      exact (closes.ne_textList legible notEmpty otherCloses).2
  by_cases isLast : tail = [] <;> by_cases otherIsLast : rest = []
  · subst isLast otherIsLast
    rw [settledAll_singleton, settledAll_singleton, same]
    exact ⟨rfl, sameBehind⟩
  · subst isLast
    rw [behindFirst_of_ne_nil otherIsLast] at sameBehind
    exact absurd sameBehind (unended otherLegible otherIsLast closes otherCloses)
  · subst otherIsLast
    rw [behindFirst_of_ne_nil isLast] at sameBehind
    exact absurd sameBehind.symm (unended legible isLast otherCloses closes)
  · rw [behindFirst_of_ne_nil isLast, behindFirst_of_ne_nil otherIsLast] at sameBehind
    have sameGap : head.gap = other.gap := by
      rcases head.gap_eq_nil_or with noGap | aGap <;>
        rcases other.gap_eq_nil_or with otherNoGap | otherGap
      · rw [noGap, otherNoGap]
      · rw [noGap, otherGap] at sameBehind
        exact absurd sameBehind (textList_append_ne legible isLast closes (by decide) _)
      · rw [aGap, otherNoGap] at sameBehind
        exact absurd sameBehind.symm
          (textList_append_ne otherLegible otherIsLast otherCloses (by decide) _)
      · rw [aGap, otherGap]
    rw [sameGap] at sameBehind
    obtain ⟨settled, closed⟩ := told closes otherCloses (List.append_cancel_left sameBehind)
    rw [settledAll_cons _ isLast, settledAll_cons _ otherIsLast, settled,
      settled_eq_of_alone same sameGap]
    exact ⟨rfl, closed⟩

/-- Trees are told apart by their text. The induction is on the number of tokens: it carries over to
what a first group holds, and to the trees behind a first tree. -/
theorem toldApart {trees others : List Tree} (legible : ∀ tree ∈ trees, tree.Legible)
    (otherLegible : ∀ tree ∈ others, tree.Legible) : ToldApart trees others := by
  induction bound : sizeList trees using Nat.strongRecOn generalizing trees others with
  | _ bound induction =>
    subst bound
    intro behind otherBehind closes otherCloses same
    cases trees with
    | nil =>
      cases others with
      | nil => exact ⟨rfl, same⟩
      | cons other rest =>
        exact absurd same (closes.ne_textList otherLegible (by simp) otherCloses).1
    | cons head tail =>
      cases others with
      | nil => exact absurd same.symm (otherCloses.ne_textList legible (by simp) closes).1
      | cons other rest =>
        obtain ⟨headLegible, tailLegible⟩ := List.forall_mem_cons.mp legible
        obtain ⟨otherHeadLegible, restLegible⟩ := List.forall_mem_cons.mp otherLegible
        have shorter : sizeList tail < sizeList (head :: tail) := by
          cases head <;> simp [sizeList, size]
        have inner : ∀ delimiter content position otherPosition,
            head = .group delimiter content position → ∀ otherContent,
              other = .group delimiter otherContent otherPosition →
                ToldApart content otherContent := by
          rintro delimiter content position otherPosition rfl otherContent rfl
          cases headLegible with
          | group delimiter all =>
            cases otherHeadLegible with
            | group delimiter otherAll =>
              exact induction _ (by simp [sizeList, size]; omega) all otherAll rfl
        rw [toList_textList_append, toList_textList_append] at same
        obtain ⟨sameHead, sameBehind⟩ := alone_eq_of_text headLegible otherHeadLegible
          (closes.stands head tail) (otherCloses.stands other rest) inner same
        exact toldApart_cons tailLegible restLegible closes otherCloses
          (induction _ shorter tailLegible restLegible rfl) sameHead sameBehind

/-- Trees with one text are the same, but for their places. -/
theorem settledAll_eq_of_textList {trees others : List Tree}
    (legible : ∀ tree ∈ trees, tree.Legible) (otherLegible : ∀ tree ∈ others, tree.Legible)
    (same : textList trees = textList others) : settledAll trees = settledAll others :=
  (toldApart legible otherLegible (.inl rfl) (.inl rfl) (by rw [same])).1

end Tree

end Wireform.Syntax
