import Wireform.Proofs.Syntax.Quotation
import Wireform.Proofs.Syntax.TokenText

/-! # Trees of a source text

Every tree that is read from a text is one that its own text tells: a piece ends where it would end
in front of anything that breaks off. -/

namespace Wireform.Syntax

open Wireform.Text

/-! ## Words and literals -/

theorem isIdentifierText_take_wordLength {letters : List Char} (isWord : wordLength letters ≠ 0) :
    isIdentifierText (letters.take (wordLength letters)) = true := by
  obtain ⟨word, behind, rfl, length, rfl | ⟨identifier, -⟩⟩ := exists_wordLength letters
  · exact absurd length isWord
  · rwa [length, List.take_left]

/-- A name at the front of a text, raw or not, is an identifier. -/
theorem exists_wordOf {letters : List Char} {length : Nat}
    (named : nameLength letters = some length) (position : Position) :
    ∃ name, Tree.wordOf (letters.take length) position = .word name position ∧
      isIdentifierText name.text.toList = true := by
  unfold nameLength at named
  split at named
  · dsimp only at named
    split at named
    · cases named
    · rename_i rest isWord
      cases named
      refine ⟨_, rfl, ?_⟩
      rw [String.toList_ofList]
      exact isIdentifierText_take_wordLength isWord
  · dsimp only at named
    split at named
    · cases named
    · rename_i isWord
      cases named
      have identifier := isIdentifierText_take_wordLength isWord
      have written : Tree.wordOf (letters.take (wordLength letters)) position =
          .word (.plain (String.ofList (letters.take (wordLength letters)))) position := by
        unfold Tree.wordOf
        split
        · rename_i sign
          rw [sign] at identifier
          exact absurd (continuesIdentifier_of_mem identifier '#' (by simp)) (by decide)
        · rfl
      exact ⟨_, written, by rwa [Name.plain, String.toList_ofList]⟩

theorem nameLength_of_word? {letters : List Char} {length : Nat}
    (isWord : word? letters = some length) : nameLength letters = some length := by
  unfold word? at isWord
  split at isWord
  · cases isWord
  · obtain ⟨named, found, isWord⟩ := Option.bind_eq_some_iff.mp isWord
    split at isWord
    · dsimp only at isWord
      split at isWord
      · cases isWord
      · cases isWord
        exact found
    · cases isWord
      exact found

/-- Where a lifetime begins, a first character is followed by no quote. -/
theorem beginsLikeName_take {letters : List Char} (begins : beginsLifetime letters = true)
    {length : Nat} (notEmpty : length ≠ 0) : BeginsLikeName (letters.take length) := by
  have front {first : Char} {rest : List Char} (noQuote : rest.head? ≠ some '\'')
      (starts : startsIdentifier first = true) :
      BeginsLikeName ((first :: rest).take length) := by
    obtain ⟨count, rfl⟩ := Nat.exists_eq_succ_of_ne_zero notEmpty
    refine ⟨first, rest.take count, rfl, starts, ?_⟩
    rw [List.head?_take]
    split
    · exact nofun
    · exact noQuote
  unfold beginsLifetime nameLength at begins
  split at begins
  · cases begins
  · rename_i found named
    split at named
    · exact front (by simp) (by decide)
    · dsimp only at named
      split at named
      · cases named
      · rename_i isWord
        cases named
        obtain ⟨word, behind, rfl, length, rfl | ⟨identifier, -⟩⟩ := exists_wordLength letters
        · exact absurd length isWord
        · rw [length, List.drop_left] at begins
          match word, identifier with
          | first :: rest, identifier =>
            have starts : startsIdentifier first = true := by
              rw [isIdentifierText, Bool.and_eq_true] at identifier
              exact identifier.1
            refine front ?_ starts
            intro quote
            cases rest with
            | nil =>
              cases behind with
              | nil => cases quote
              | cons next behind =>
                cases quote
                cases begins
            | cons next rest =>
              cases quote
              exact absurd (continuesIdentifier_of_mem identifier '\'' (by simp)) (by decide)

theorem length_ne_zero_of_literalLength {letters : List Char} {kind : LiteralKind} {length : Nat}
    (measured : literalLength letters = some (kind, length)) : length ≠ 0 := by
  rintro rfl
  obtain ⟨front, behind, -, noLength, alike⟩ := literalLength_front measured
  have nothing := alike [] .nil
  rw [List.length_eq_zero_iff.mp noLength.symm] at nothing
  cases nothing

/-! ## Pieces -/

/-- What becomes of a lexeme can be told by its text. -/
inductive Lexeme.Legible : Lexeme → Prop where
  | tree {tree : Tree} (legible : tree.Legible) : Legible (.tree tree)
  | opening (delimiter : Delimiter) (position : Position) : Legible (.opening delimiter position)
  | closing (delimiter : Delimiter) : Legible (.closing delimiter)

theorem legible_of_mark? {letters : List Char} {joint : Bool} (isMark : mark? letters = some joint)
    (position : Position) {symbol : Char} (taken : symbol ∈ letters.take 1) :
    (Tree.mark symbol joint position).Legible := by
  unfold mark? at isMark
  split at isMark
  · cases isMark
  · rename_i noQuote
    split at isMark
    · rename_i begins
      unfold beginsMark at begins
      split at begins
      · cases begins
      · cases begins
      · rename_i first rest _ _
        obtain rfl := List.mem_singleton.mp taken
        exact .mark (List.contains_iff_mem.mp begins) (fun quote => noQuote rest (by rw [quote]))
          joint position
      · cases begins
    · cases isMark

theorem legible_quoted {letters : List Char} {piece : Piece} {length : Nat}
    (found : quoted? letters = some (piece, length)) (first : Char) (position : Position) :
    ∀ lexeme ∈ piece.lexemes ((first :: letters).take length) position, lexeme.Legible := by
  unfold quoted? at found
  split at found
  · rename_i begins
    split at found
    · rename_i kind count measured
      cases found
      intro lexeme among
      obtain rfl := List.mem_singleton.mp among
      refine .tree (.quotedLiteral (Literal.readsBack_of_literalLength measured) ?_ _ position)
      rw [String.toList_ofList]
      exact beginsLikeName_take begins (length_ne_zero_of_literalLength measured)
    · obtain ⟨count, isWord, pair⟩ := Option.map_eq_some_iff.mp found
      cases pair
      intro lexeme among
      obtain rfl := List.mem_singleton.mp among
      obtain ⟨name, written, identifier⟩ := exists_wordOf (nameLength_of_word? isWord)
        (position.advance ((first :: letters).take (count + 1) |>.take 1))
      have tail : ((first :: letters).take (count + 1)).tail = letters.take count := rfl
      dsimp only
      rw [tail, written]
      exact .tree (.lifetime identifier _ position)
  · cases found

theorem legible_leaf {letters : List Char} {piece : Piece} {length : Nat}
    (found : leaf? letters = some (piece, length)) (position : Position) :
    ∀ lexeme ∈ piece.lexemes (letters.take length) position, lexeme.Legible := by
  unfold leaf? at found
  split at found
  · rename_i kind count measured
    cases found
    intro lexeme among
    obtain rfl := List.mem_singleton.mp among
    exact .tree (.literal (Literal.readsBack_of_literalLength measured) position)
  · split at found
    · rename_i joint isMark
      cases found
      intro lexeme among
      obtain ⟨symbol, taken, rfl⟩ := List.mem_map.mp among
      exact .tree (legible_of_mark? isMark position taken)
    · split at found
      · exact legible_quoted found '\'' position
      · obtain ⟨count, isWord, pair⟩ := Option.map_eq_some_iff.mp found
        cases pair
        intro lexeme among
        obtain rfl := List.mem_singleton.mp among
        obtain ⟨name, written, identifier⟩ := exists_wordOf (nameLength_of_word? isWord) position
        rw [written]
        exact .tree (.word identifier position)

/-- A documentation comment becomes an attribute with its text in quotes. -/
theorem legible_documentation (inner : Bool) (text : List Char) (position : Position) :
    ∀ tree ∈ documentationTrees inner text position, tree.Legible := by
  have isMark {symbol : Char} (among : symbol ∈ ['#', '!', '=']) :
      (Tree.mark symbol false position).Legible := by
    simp only [List.mem_cons, List.not_mem_nil, or_false] at among
    rcases among with rfl | rfl | rfl <;> exact .mark (by decide) (by decide) false position
  have readsBack : Literal.ReadsBack ⟨.text, sourceQuoted (String.ofList text)⟩ :=
    fun behind breaks => literalLength_sourceQuoted _ breaks.endsWord.wordLength
  have body : Tree.Legible (.group .bracket
      [.word (.plain "doc") position, .mark '=' false position,
        .literal ⟨.text, sourceQuoted (String.ofList text)⟩ position] position) := by
    refine .group _ (fun tree among => ?_) position
    simp only [List.mem_cons, List.not_mem_nil, or_false] at among
    obtain rfl | rfl | rfl := among
    · exact .word (by decide) position
    · exact isMark (by simp)
    · exact .literal readsBack position
  intro tree among
  unfold documentationTrees at among
  cases inner <;>
    simp only [if_true, Bool.false_eq_true, if_false, List.mem_cons, List.not_mem_nil,
      or_false] at among
  · obtain rfl | rfl := among
    · exact isMark (by simp)
    · exact body
  · obtain rfl | rfl | rfl := among
    · exact isMark (by simp)
    · exact isMark (by simp)
    · exact body

theorem exists_of_documentation? {letters : List Char} {piece : Piece} {length : Nat}
    (found : documentation? letters = some (piece, length)) :
    ∃ inner text, piece = .documentation inner text := by
  have line {inner : Bool} {body : List Char}
      (found : (if hasBareReturn (body.take (lineLength 0 body)) then none
        else some (Piece.documentation inner (body.take (lineLength 0 body)),
          lineLength 0 body + 3)) = some (piece, length)) :
      ∃ inner text, piece = .documentation inner text := by
    split at found
    · cases found
    · cases found
      exact ⟨_, _, rfl⟩
  have block {inner : Bool}
      (found : (blockLength 0 0 letters).bind (fun length =>
        if hasBareReturn ((letters.take (length - 2)).drop 3) then none
        else some (Piece.documentation inner ((letters.take (length - 2)).drop 3), length)) =
          some (piece, length)) :
      ∃ inner text, piece = .documentation inner text := by
    obtain ⟨size, -, found⟩ := Option.bind_eq_some_iff.mp found
    split at found
    · cases found
    · cases found
      exact ⟨_, _, rfl⟩
  unfold documentation? at found
  dsimp only at found
  split at found
  · exact line found
  · cases found
  · exact line found
  · exact block found
  · cases found
  · exact block found
  · cases found

theorem legible_piece {letters : List Char} {piece : Piece} {length : Nat}
    (found : piece? letters = some (piece, length)) (position : Position) :
    ∀ lexeme ∈ piece.lexemes (letters.take length) position, lexeme.Legible := by
  have delimiter {first : Char} {piece : Piece} (found : delimiter? first = some piece)
      (letters : List Char) :
      ∀ lexeme ∈ piece.lexemes letters position, lexeme.Legible := by
    unfold delimiter? at found
    intro lexeme among
    split at found <;> cases found <;> obtain rfl := List.mem_singleton.mp among
    all_goals first | exact .opening _ position | exact .closing _
  unfold piece? at found
  split at found
  · cases found
  · rename_i first rest
    split at found
    · cases found
      exact nofun
    · split at found
      · cases found
        exact nofun
      · split at found
        · rename_i pair documentation
          cases found
          obtain ⟨inner, text, rfl⟩ := exists_of_documentation? documentation
          intro lexeme among
          obtain ⟨tree, isPart, rfl⟩ := List.mem_map.mp among
          exact .tree (legible_documentation inner text position tree isPart)
        · rcases Option.or_eq_some_iff.mp found with leaf | ⟨-, other⟩
          · exact legible_leaf leaf position
          · obtain ⟨piece, isDelimiter, pair⟩ := Option.map_eq_some_iff.mp other
            cases pair
            exact delimiter isDelimiter _

/-! ## Reading trees -/

theorem legible_lexemesReversed {fuel : Nat} {position : Position} {found lexemes : List Lexeme}
    {letters : List Char} (legible : ∀ lexeme ∈ found, lexeme.Legible)
    (read : lexemesReversed fuel position found letters = some lexemes) :
    ∀ lexeme ∈ lexemes, lexeme.Legible := by
  induction fuel generalizing position found letters with
  | zero =>
    cases letters with
    | nil =>
      cases read
      exact legible
    | cons first rest => cases read
  | succ fuel ih =>
    cases letters with
    | nil =>
      cases read
      exact legible
    | cons first rest =>
      obtain ⟨⟨piece, length⟩, isPiece, read⟩ := Option.bind_eq_some_iff.mp read
      refine ih (fun lexeme among => ?_) read
      rcases List.mem_append.mp among with isNew | isOld
      · exact legible_piece isPiece position lexeme (List.mem_reverse.mp isNew)
      · exact legible lexeme isOld

/-- The groups that are open and the trees found are told by their texts as long as the lexemes
are. -/
theorem legible_nest {stack : List OpenGroup} {found trees : List Tree} {lexemes : List Lexeme}
    (opened : ∀ group ∈ stack, ∀ tree ∈ group.before, tree.Legible)
    (foundLegible : ∀ tree ∈ found, tree.Legible)
    (legible : ∀ lexeme ∈ lexemes, lexeme.Legible) (nested : nest stack found lexemes = some trees) :
    ∀ tree ∈ trees, tree.Legible := by
  induction lexemes generalizing stack found with
  | nil =>
    cases stack with
    | nil =>
      cases nested
      exact fun tree among => foundLegible tree (List.mem_reverse.mp among)
    | cons innermost stack => cases nested
  | cons head rest ih =>
    have legibleRest := (List.forall_mem_cons.mp legible).2
    cases head with
    | tree tree =>
      rw [nest] at nested
      refine ih opened (List.forall_mem_cons.mpr ⟨?_, foundLegible⟩) legibleRest nested
      obtain ⟨isLegible⟩ := legible _ List.mem_cons_self
      exact isLegible
    | opening delimiter position =>
      rw [nest] at nested
      exact ih (List.forall_mem_cons.mpr ⟨foundLegible, opened⟩) (List.forall_mem_nil _) legibleRest
        nested
    | closing delimiter =>
      cases stack with
      | nil => cases nested
      | cons innermost stack =>
        rw [nest] at nested
        split at nested
        · have outer := List.forall_mem_cons.mp opened
          refine ih outer.2 (List.forall_mem_cons.mpr ⟨?_, outer.1⟩) legibleRest nested
          exact .group delimiter
            (fun tree among => foundLegible tree (List.mem_reverse.mp among)) innermost.position
        · cases nested

/-- The trees of a text can be told by their own texts. -/
theorem Tree.legible_of_readFrom? {position : Position} {letters : List Char} {trees : List Tree}
    (read : readFrom? position letters = some trees) : ∀ tree ∈ trees, tree.Legible := by
  obtain ⟨lexemes, isRead, nested⟩ := Option.bind_eq_some_iff.mp read
  have legible := legible_lexemesReversed (List.forall_mem_nil _) isRead
  exact legible_nest (List.forall_mem_nil _) (List.forall_mem_nil _)
    (fun lexeme among => legible lexeme (List.mem_reverse.mp among)) nested

end Wireform.Syntax
