import Wireform.Generation.Fragment
import Wireform.Proofs.Syntax.Quotation

/-! # Inclusion

The index is read back as the list of the files it was made for, whatever their names are and
however its lines are broken. -/

namespace Wireform.Text

/-! ## Order -/

/-- Texts in order, without those that equal the one before. `kept` are the ones found so far, the
last of them first, and `last` is the one that is compared with the next. -/
theorem pairwise_eraseReps_loop (kept rest : List String) (last : String)
    (ordered : (last :: rest).Pairwise (· ≤ ·)) (below : ∀ text ∈ kept, text < last)
    (falling : kept.Pairwise fun later earlier => earlier < later) :
    (List.eraseRepsBy.loop (· == ·) last rest kept).Pairwise (· < ·) ∧
      ∀ text, text ∈ List.eraseRepsBy.loop (· == ·) last rest kept ↔
        text ∈ kept ∨ text = last ∨ text ∈ rest := by
  induction rest generalizing last kept with
  | nil =>
    rw [List.eraseRepsBy.loop, List.pairwise_reverse]
    refine ⟨List.pairwise_cons.mpr ⟨below, falling⟩, ?_⟩
    intro text
    simp [or_comm]
  | cons next rest induction =>
    obtain ⟨least, ordered⟩ := List.pairwise_cons.mp ordered
    rw [List.eraseRepsBy.loop]
    by_cases same : last = next
    · obtain rfl := same
      rw [beq_self_eq_true]
      obtain ⟨rising, members⟩ := induction kept last ordered below falling
      refine ⟨rising, ?_⟩
      intro text
      rw [members text]
      simp
    · rw [beq_false_of_ne same]
      have increased : last < next := by
        apply String.not_le.mp
        intro reversed
        exact same (String.le_antisymm (least next List.mem_cons_self) reversed)
      obtain ⟨rising, members⟩ := induction (last :: kept) next ordered
        (List.forall_mem_cons.mpr
          ⟨increased, fun text among => String.lt_trans (below text among) increased⟩)
        (List.pairwise_cons.mpr ⟨below, falling⟩)
      refine ⟨rising, ?_⟩
      intro text
      rw [members text, List.mem_cons, List.mem_cons]
      tauto

theorem sortedOnce_spec (texts : List String) :
    (sortedOnce texts).Pairwise (· < ·) ∧ ∀ text, text ∈ sortedOnce texts ↔ text ∈ texts := by
  have ordered : (sorted texts).Pairwise (· ≤ ·) := by
    have pairs : (sorted texts).Pairwise fun left right => decide (left ≤ right) = true :=
      List.pairwise_mergeSort (fun _ _ _ => by simpa using String.le_trans)
        (by simpa using String.le_total) texts
    exact pairs.imp of_decide_eq_true
  have same (text : String) : text ∈ sorted texts ↔ text ∈ texts := List.mem_mergeSort
  rw [sortedOnce, List.eraseReps]
  cases split : sorted texts with
  | nil =>
    rw [split] at same
    exact ⟨List.Pairwise.nil, same⟩
  | cons first rest =>
    rw [split] at ordered same
    obtain ⟨rising, members⟩ :=
      pairwise_eraseReps_loop [] rest first ordered (by simp) List.Pairwise.nil
    refine ⟨rising, ?_⟩
    intro text
    rw [← same text, List.mem_cons, List.eraseRepsBy]
    simpa using members text

theorem pairwise_sortedOnce (texts : List String) : (sortedOnce texts).Pairwise (· < ·) :=
  (sortedOnce_spec texts).1

theorem mem_sortedOnce {texts : List String} {text : String} :
    text ∈ sortedOnce texts ↔ text ∈ texts :=
  (sortedOnce_spec texts).2 text

end Wireform.Text

namespace Wireform.Syntax

open Wireform.Text

/-- The names of the files that these trees include, if they are declarations that include files and
nothing else. -/
def includedFiles : List Tree → Option (List String)
  | [] => some []
  | .word name _ :: .mark '!' _ _ :: .group .parenthesis [.literal literal _] _ ::
      .mark ';' _ _ :: rest =>
    if name.isWord "include" then do
      let file ← literal.text?
      let files ← includedFiles rest
      return file :: files
    else none
  | _ => none

/-- The names of the files that a source text includes, if it does nothing else. -/
def includedFiles? (source : String) : Option (List String) := do
  includedFiles (← Tree.readFile? source.toList)

/-! ## Pieces of a text -/

/-- The text splits into these lexemes, read from this place on. -/
inductive Lexed : Position → List Char → List Lexeme → Prop where
  | done (position : Position) : Lexed position [] []
  | piece {position : Position} {letters : List Char} {piece : Piece} {length : Nat}
      {lexemes : List Lexeme} (found : piece? letters = some (piece, length)) (some' : 0 < length)
      (rest : Lexed (position.advance (letters.take length)) (letters.drop length) lexemes) :
      Lexed position letters (piece.lexemes (letters.take length) position ++ lexemes)

theorem ne_nil_of_piece? {letters : List Char} {found : Piece × Nat}
    (some' : piece? letters = some found) : letters ≠ [] := by
  rintro rfl
  cases some'

theorem lexemesReversed_of_lexed {position : Position} {letters : List Char}
    {lexemes : List Lexeme} (lexed : Lexed position letters lexemes) :
    ∀ {fuel : Nat} (found : List Lexeme), letters.length ≤ fuel →
      lexemesReversed fuel position found letters = some (lexemes.reverse ++ found) := by
  induction lexed with
  | done position =>
    intro fuel found _
    cases fuel <;> rfl
  | @piece position letters piece length lexemes isPiece some' rest induction =>
    intro fuel found enough
    have notEmpty : 0 < letters.length :=
      List.length_pos_iff.mpr (ne_nil_of_piece? isPiece)
    cases fuel with
    | zero => omega
    | succ fuel =>
      have shorter : (letters.drop length).length ≤ fuel := by
        rw [List.length_drop]
        omega
      rw [lexemesReversed]
      · simp only [isPiece, Option.bind_eq_bind, Option.bind_some]
        rw [induction _ shorter, List.reverse_append, List.append_assoc]
      · exact ne_nil_of_piece? isPiece

theorem readFrom?_of_lexed {position : Position} {letters : List Char} {lexemes : List Lexeme}
    (lexed : Lexed position letters lexemes) :
    Tree.readFrom? position letters = nest [] [] lexemes := by
  rw [Tree.readFrom?, lexemesReversed_of_lexed lexed [] (Nat.le_refl _)]
  simp

/-- Wherever it stands, the text is read as declarations that include these files. -/
def Includes (letters : List Char) (files : List String) : Prop :=
  ∀ position, ∃ lexemes, Lexed position letters lexemes ∧ ∀ found, ∃ trees,
    nest [] found lexemes = some (found.reverse ++ trees) ∧ includedFiles trees = some files

theorem includes_nil : Includes [] [] := by
  intro position
  refine ⟨[], .done position, ?_⟩
  intro found
  exact ⟨[], by simp [nest], rfl⟩

theorem piece?_blank {letter : Char} {rest : List Char} (isBlank : isBlank letter = true) :
    piece? (letter :: rest) = some (.blank, 1) := by
  rw [piece?, if_pos isBlank]

/-- One piece in front of a text, with what it is as lexemes. -/
theorem Lexed.token (taken : List Char) {letters : List Char} {piece : Piece}
    {own lexemes : List Lexeme} {position : Position}
    (found : piece? (taken ++ letters) = some (piece, taken.length))
    (notEmpty : taken ≠ []) (same : piece.lexemes taken position = own)
    (rest : Lexed (position.advance taken) letters lexemes) :
    Lexed position (taken ++ letters) (own ++ lexemes) := by
  have front : (taken ++ letters).take taken.length = taken := List.take_left
  have behind : (taken ++ letters).drop taken.length = letters := List.drop_left
  rw [← behind, ← front] at rest
  rw [front] at rest
  have lexed := Lexed.piece found (List.length_pos_iff.mpr notEmpty) (by rw [front]; exact rest)
  rwa [front, same] at lexed

theorem Lexed.blanks (blanks : List Char) {letters : List Char} {lexemes : List Lexeme}
    (allBlank : ∀ letter ∈ blanks, isBlank letter = true) {position : Position}
    (rest : Lexed (position.advance blanks) letters lexemes) :
    Lexed position (blanks ++ letters) lexemes := by
  induction blanks generalizing position with
  | nil => exact rest
  | cons first blanks induction =>
    have behind :=
      induction (fun letter among => allBlank letter (List.mem_cons_of_mem _ among)) rest
    exact .piece (piece?_blank (allBlank first List.mem_cons_self)) Nat.one_pos behind

theorem piece?_include (rest : List Char) :
    piece? (['i', 'n', 'c', 'l', 'u', 'd', 'e'] ++ '!' :: rest) = some (.word, 7) := rfl

theorem piece?_exclamation (rest : List Char) :
    piece? ('!' :: '(' :: rest) = some (.mark false, 1) :=
  rfl

theorem piece?_opening {rest : List Char} (noPlaceholder : rest.head? ≠ some '/') :
    piece? ('(' :: rest) = some (.opening .parenthesis, 1) := by
  have spelled :
      placeholderText.toList = ['(', '/', '*', 'E', 'R', 'R', 'O', 'R', '*', '/', ')'] := by
    decide
  have noLiteral : literalLength ('(' :: rest) = none := by
    have apart : placeholderText.toList.isPrefixOf ('(' :: rest) = false := by
      rw [spelled]
      cases rest with
      | nil => rfl
      | cons next rest =>
        have different : next ≠ '/' := fun same => noPlaceholder (congrArg some same)
        simp [List.isPrefixOf, Ne.symm different]
    rw [literalLength, apart]
    rfl
  have noLeaf : leaf? ('(' :: rest) = none := by
    unfold leaf?
    rw [noLiteral]
    rfl
  have noDocumentation : documentation? ('(' :: rest) = none := rfl
  have noComment : comment? ('(' :: rest) = none := rfl
  have notBlank : isBlank '(' = false := by decide
  rw [piece?, if_neg (by rw [notBlank]; decide), noComment, noDocumentation, noLeaf]
  rfl

theorem piece?_quoted (text : String) {rest : List Char} (apart : wordLength rest = 0) :
    piece? ((sourceQuoted text).toList ++ rest) =
      some (.literal .text, (sourceQuoted text).toList.length) := by
  have isLiteral := literalLength_sourceQuoted text apart
  rw [toList_sourceQuoted] at isLiteral ⊢
  have notBlank : isBlank '"' = false := by decide
  have noComment (rest : List Char) : comment? ('"' :: rest) = none := rfl
  have noDocumentation (rest : List Char) : documentation? ('"' :: rest) = none := rfl
  rw [List.cons_append] at isLiteral ⊢
  have leaf : leaf? ('"' :: (quotedCharacters text.toList ++ ['"'] ++ rest)) =
      some (.literal .text, ('"' :: (quotedCharacters text.toList ++ ['"'])).length) := by
    unfold leaf?
    rw [isLiteral]
  rw [piece?, if_neg (by rw [notBlank]; decide), noComment, noDocumentation, leaf]
  rfl

theorem piece?_closing (rest : List Char) :
    piece? (')' :: ';' :: rest) = some (.closing .parenthesis, 1) := rfl

theorem piece?_semicolon (rest : List Char) :
    piece? (';' :: '\n' :: rest) = some (.mark false, 1) :=
  rfl

/-- A declaration that includes a file, with blanks around the literal. -/
def inclusion (before after : List Char) (file : String) : List Char :=
  ['i', 'n', 'c', 'l', 'u', 'd', 'e'] ++ '!' :: '(' ::
    (before ++ ((sourceQuoted file).toList ++ (after ++ [')', ';', '\n'])))

def isSpacing (letter : Char) : Bool := letter = ' ' || letter = '\n'

theorem isBlank_of_isSpacing {letter : Char} (spacing : isSpacing letter = true) :
    isBlank letter = true := by
  rcases (by simpa [isSpacing] using spacing : letter = ' ' ∨ letter = '\n') with rfl | rfl <;>
    decide

theorem wordLength_of_spacing {spacing letters : List Char} {first : Char}
    (all : ∀ letter ∈ spacing, isSpacing letter = true)
    (noWord : startsIdentifier first = false) : wordLength (spacing ++ first :: letters) = 0 := by
  cases spacing with
  | nil =>
    rw [List.nil_append, wordLength, noWord]
    rfl
  | cons letter rest =>
    have blank := all letter List.mem_cons_self
    have notWord : startsIdentifier letter = false := by
      rcases (by simpa [isSpacing] using blank : letter = ' ' ∨ letter = '\n') with rfl | rfl <;>
        decide
    rw [List.cons_append, wordLength, notWord]
    rfl

theorem head?_of_spacing {spacing letters : List Char} {first other : Char}
    (all : ∀ letter ∈ spacing, isSpacing letter = true) (notSpacing : isSpacing other = false)
    (different : first ≠ other) : (spacing ++ first :: letters).head? ≠ some other := by
  cases spacing with
  | nil => exact fun same => different (Option.some.inj same)
  | cons letter rest =>
    intro same
    obtain rfl : letter = other := Option.some.inj same
    rw [all letter List.mem_cons_self] at notSpacing
    cases notSpacing

theorem Includes.cons {before after letters : List Char} {file : String} {files : List String}
    (spacedBefore : ∀ letter ∈ before, isSpacing letter = true)
    (spacedAfter : ∀ letter ∈ after, isSpacing letter = true) (rest : Includes letters files) :
    Includes (inclusion before after file ++ letters) (file :: files) := by
  intro start
  let word := ['i', 'n', 'c', 'l', 'u', 'd', 'e']
  let quoted := (sourceQuoted file).toList
  let atMark := start.advance word
  let atOpening := atMark.advance ['!']
  let atLiteral := (atOpening.advance ['(']).advance before
  let atClosing := (atLiteral.advance quoted).advance after
  let atSemicolon := atClosing.advance [')']
  obtain ⟨lexemes, lexed, nests⟩ := rest ((atSemicolon.advance [';']).advance ['\n'])
  -- The pieces are put together from the end of the line to its start.
  have lineEnd : Lexed (atSemicolon.advance [';']) ('\n' :: letters) lexemes :=
    .blanks ['\n'] (List.forall_mem_singleton.mpr rfl) lexed
  have semicolon : Lexed atSemicolon (';' :: '\n' :: letters)
      ([.tree (.mark ';' false atSemicolon)] ++ lexemes) :=
    .token [';'] (piece?_semicolon letters) (List.cons_ne_nil _ _) rfl lineEnd
  have closing : Lexed atClosing (')' :: ';' :: '\n' :: letters)
      ([.closing .parenthesis] ++ ([.tree (.mark ';' false atSemicolon)] ++ lexemes)) :=
    .token [')'] (piece?_closing _) (List.cons_ne_nil _ _) rfl semicolon
  have spacing := Lexed.blanks after
    (fun letter among => isBlank_of_isSpacing (spacedAfter letter among)) closing
  have apart : wordLength (after ++ ')' :: ';' :: '\n' :: letters) = 0 :=
    wordLength_of_spacing spacedAfter (by decide)
  have starts : quoted = '"' :: (quotedCharacters file.toList ++ ['"']) := toList_sourceQuoted file
  have spelled : String.ofList quoted = sourceQuoted file := String.ofList_toList
  have literal : Lexed atLiteral (quoted ++ (after ++ ')' :: ';' :: '\n' :: letters))
      ([.tree (.literal ⟨.text, sourceQuoted file⟩ atLiteral)] ++
        ([.closing .parenthesis] ++ ([.tree (.mark ';' false atSemicolon)] ++ lexemes))) := by
    refine .token quoted (piece?_quoted file apart) ?_ ?_ spacing
    · rw [starts]
      exact List.cons_ne_nil _ _
    · rw [Piece.lexemes, Tree.literalOf, spelled]
  have noPlaceholder : (before ++ (quoted ++ (after ++ ')' :: ';' :: '\n' :: letters))).head? ≠
      some '/' := by
    rw [starts]
    exact head?_of_spacing spacedBefore (by decide) (by decide)
  have opening : Lexed atOpening
      ('(' :: (before ++ (quoted ++ (after ++ ')' :: ';' :: '\n' :: letters)))) _ :=
    .token ['('] (piece?_opening noPlaceholder) (List.cons_ne_nil _ _) rfl
      (.blanks before (fun letter among => isBlank_of_isSpacing (spacedBefore letter among))
        literal)
  have mark : Lexed atMark
      ('!' :: '(' :: (before ++ (quoted ++ (after ++ ')' :: ';' :: '\n' :: letters)))) _ :=
    .token ['!'] (piece?_exclamation _) (List.cons_ne_nil _ _) rfl opening
  have all := Lexed.token word (piece?_include _) (List.cons_ne_nil _ _) rfl mark
  have sameLetters : inclusion before after file ++ letters =
      word ++ '!' :: '(' :: (before ++ (quoted ++ (after ++ ')' :: ';' :: '\n' :: letters))) := by
    simp [inclusion, word, quoted]
  rw [← sameLetters] at all
  refine ⟨_, all, ?_⟩
  intro found
  obtain ⟨trees, nested, included⟩ := nests (.mark ';' false atSemicolon ::
    .group .parenthesis [.literal ⟨.text, sourceQuoted file⟩ atLiteral] atOpening ::
    .mark '!' false atMark :: .word (.plain "include") start :: found)
  refine ⟨.word (.plain "include") start :: .mark '!' false atMark ::
    .group .parenthesis [.literal ⟨.text, sourceQuoted file⟩ atLiteral] atOpening ::
    .mark ';' false atSemicolon :: trees, ?_, ?_⟩
  · rw [List.reverse_cons, List.reverse_cons, List.reverse_cons, List.reverse_cons] at nested
    simp only [List.append_assoc, List.cons_append, List.nil_append] at nested
    exact nested
  · have isInclude : (Name.plain "include").isWord "include" = true := by decide
    simp only [includedFiles, isInclude, if_true, text?_sourceQuoted, included]
    rfl

end Wireform.Syntax

namespace Wireform.Generation

open Wireform.Syntax Wireform.Text
open Wireform.Text.Doc (textOf)

/-! ## Lines of the index -/

/-- A literal behind an opening parenthesis: on the same line if it and `);` fit there, and else on
a line of its own. -/
def literalLines (quoted : String) (page : Page) : Page :=
  if ((quoted.utf8ByteSize + 2 : Nat) : Int) ≤ page.space then page.write quoted
  else ((page.endLine none Layout.indent).write quoted).endLine none 0

theorem space_literalLines (quoted : String) {page : Page} (usual : page.space ≤ Layout.margin) :
    (literalLines quoted page).space ≤ Layout.margin := by
  rw [literalLines]
  split
  · simp only [Page.write, Page.settled]
    omega
  · change max (Layout.margin - 0) Layout.leastSpace ≤ Layout.margin
    decide

theorem render_lineEnd {page : Page} (usual : page.space ≤ Layout.margin) :
    Gap.lineEnd.render (.broken .filled) 0 0 page = page.endLine none 0 := by
  have tooLong : ¬ (Layout.endless : Int) ≤ page.space := by
    simp only [Layout.endless, Layout.margin] at *
    omega
  simp [Gap.render, Gap.lineEnd, Gap.empty, tooLong]

theorem includeLines_eq_text (file : String) :
    includeLines file = (((literalLines (sourceQuoted file) ⟨"include!(", 80, 0⟩).write
      ");").endLine none 0).text := by
  have opening : Page.blank.write "include!(" = ⟨"include!(", 80, 0⟩ := rfl
  have closing : Doc.runWidth 0 [.text ");", .gap .lineEnd] = 2 := by decide
  have literal : Doc.render (.broken .filled) 0 2
      (Doc.stack Layout.indent
        [.gap .empty, Doc.fill 0 [.text (sourceQuoted file)], .gap Gap.empty.outward])
      ⟨"include!(", 80, 0⟩ = literalLines (sourceQuoted file) ⟨"include!(", 80, 0⟩ := by
    simp [literalLines, Doc.stack, Doc.boxed, Doc.fill, Doc.render, Doc.renderAll, Doc.widthAll,
      Doc.width, Gap.empty, Gap.outward, Gap.render, Layout.indent, Page.skip, Page.fill]
  have usual : ((literalLines (sourceQuoted file) ⟨"include!(", 80, 0⟩).write ");").space ≤
      Layout.margin := by
    have before : (literalLines (sourceQuoted file) ⟨"include!(", 80, 0⟩).space ≤ Layout.margin :=
      space_literalLines _ (by decide)
    simp only [Page.write, Page.settled]
    omega
  rw [includeLines, textOf, Doc.renderAll, Doc.render, opening, Doc.renderAll, closing, literal,
    Doc.renderAll, Doc.render, Doc.renderAll, Doc.render, Doc.renderAll]
  exact congrArg Page.text (render_lineEnd usual)

/-- A declaration takes one line if it fits there, and else three. -/
theorem includeLines_eq (file : String) :
    (includeLines file).toList = inclusion [] [] file ∨
      (includeLines file).toList = inclusion ['\n', ' ', ' ', ' ', ' '] ['\n'] file := by
  have nothing : ("".pushn ' ' 0).toList = [] := by decide
  have indented : ("".pushn ' ' Layout.indent.toNat).toList = [' ', ' ', ' ', ' '] := by decide
  rw [includeLines_eq_text, literalLines]
  split
  · left
    simp [Page.write, Page.settled, Page.endLine, inclusion, nothing]
  · right
    simp [Page.write, Page.settled, Page.endLine, inclusion, nothing, indented]

theorem includes_includeLines (files : List String) :
    Includes (String.join (files.map includeLines)).toList files := by
  induction files with
  | nil => exact includes_nil
  | cons file files induction =>
    rw [List.map_cons, String.join_cons, String.toList_append]
    rcases includeLines_eq file with spelled | spelled <;> rw [spelled]
    · exact .cons (by simp) (by simp) induction
    · exact .cons (by simp [isSpacing]) (by simp [isSpacing]) induction

/-- The first line of the index is a comment. -/
theorem includes_header {letters : List Char} {files : List String}
    (rest : Includes letters files) : Includes (generatedHeader.toList ++ letters) files := by
  have spelled : generatedHeader.toList =
      "// @generated by autoser-gen. DO NOT EDIT.".toList ++ ['\n'] := by decide
  intro position
  let comment := "// @generated by autoser-gen. DO NOT EDIT.".toList
  obtain ⟨lexemes, lexed, nests⟩ := rest ((position.advance comment).advance ['\n'])
  have lineEnd : Lexed (position.advance comment) ('\n' :: letters) lexemes :=
    .blanks ['\n'] (List.forall_mem_singleton.mpr rfl) lexed
  have isComment : piece? (comment ++ '\n' :: letters) = some (.blank, comment.length) := rfl
  have all : Lexed position (comment ++ '\n' :: letters) lexemes :=
    .token comment isComment (by decide) rfl lineEnd
  rw [spelled, List.append_assoc]
  exact ⟨lexemes, all, nests⟩

/-- The index is read back as the files it was made for, in order and each of them once. -/
theorem includedFiles?_indexFor (names : List String) :
    includedFiles? (indexFor names).code = some (sortedOnce names) := by
  let lines := (String.join ((sortedOnce names).map includeLines)).toList
  have spelled : (indexFor names).code.toList = generatedHeader.toList ++ lines :=
    String.toList_append
  have noPrelude : dropByteOrderMark (dropInterpreterLine
      (dropByteOrderMark (generatedHeader.toList ++ lines))) =
      generatedHeader.toList ++ lines := rfl
  have includes : Includes (generatedHeader.toList ++ lines) (sortedOnce names) :=
    includes_header (includes_includeLines _)
  obtain ⟨lexemes, lexed, nests⟩ := includes .start
  obtain ⟨trees, nested, included⟩ := nests []
  rw [includedFiles?, Tree.readFile?, spelled, noPrelude, readFrom?_of_lexed lexed, nested]
  exact included

end Wireform.Generation
