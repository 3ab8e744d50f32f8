import Wireform.Syntax.Name
import Wireform.Syntax.Literal
import Wireform.Text.Basic
import Wireform.Text.Quoted

namespace Wireform.Syntax

/-! Token trees: the words, marks and literals of a source text, with everything between two
matching delimiters gathered in one group. -/

open Wireform.Text

inductive Delimiter where
  | parenthesis
  | bracket
  | brace
  deriving DecidableEq, Repr, Inhabited

/-- One token, or a group of them. A mark is one character; it is `joint` when the next mark
follows without a gap, as the two colons of a path separator do. A quote is no mark but belongs to
what it stands in front of: the name of a lifetime, or a literal that begins like a name. -/
inductive Tree where
  | word (name : Name) (position : Position)
  | mark (symbol : Char) (joint : Bool) (position : Position)
  | literal (literal : Literal) (position : Position)
  | quoted (tree : Tree) (position : Position)
  | group (delimiter : Delimiter) (content : List Tree) (position : Position)
  deriving Repr, Inhabited

namespace Delimiter

def opening : Delimiter → String
  | .parenthesis => "("
  | .bracket => "["
  | .brace => "\x7b"

def closing : Delimiter → String
  | .parenthesis => ")"
  | .bracket => "]"
  | .brace => "\x7d"

end Delimiter

namespace Tree

def position : Tree → Position
  | .word _ position => position
  | .mark _ _ position => position
  | .literal _ position => position
  | .quoted _ position => position
  | .group _ _ position => position

/-- A word that stands for itself, at no particular place. -/
def ofWord (text : String) : Tree := .word (.plain text) .start

/-- The marks of an operator, joint up to the last one. -/
def ofOperator (symbols : String) : List Tree :=
  go symbols.toList
where
  go : List Char → List Tree
    | [] => []
    | [last] => [.mark last false .start]
    | symbol :: rest => .mark symbol true .start :: go rest

def inParentheses (content : List Tree) : Tree := .group .parenthesis content .start

def inBrackets (content : List Tree) : Tree := .group .bracket content .start

def inBraces (content : List Tree) : Tree := .group .brace content .start

def isGroup (delimiter : Delimiter) : Tree → Bool
  | .group other _ _ => other = delimiter
  | _ => false

mutual
/-- The number of tokens, groups counted with their content. -/
def size : Tree → Nat
  | .group _ content _ => sizeList content + 1
  | .quoted tree _ => tree.size + 1
  | _ => 1

def sizeList : List Tree → Nat
  | [] => 0
  | head :: tail => head.size + sizeList tail
end

mutual
def text : Tree → String
  | .word name _ => name.spelling
  | .mark symbol _ _ => String.singleton symbol
  | .literal token _ => token.spelling
  | .quoted tree _ => "'" ++ tree.text
  | .group delimiter content _ =>
    let inner := textList content
    match delimiter with
    | .brace => if content.isEmpty then "\x7b \x7d" else "\x7b " ++ inner ++ " \x7d"
    | _ => delimiter.opening ++ inner ++ delimiter.closing

/-- Trees as text: a space between any two, except after a joint mark. -/
def textList : List Tree → String
  | [] => ""
  | [last] => last.text
  | head :: tail =>
    let gap := match head with
      | .mark _ true _ => ""
      | _ => " "
    head.text ++ gap ++ textList tail
end

mutual
/-- The tree at no particular place. -/
def settled : Tree → Tree
  | .word name _ => .word name .start
  | .mark symbol joint _ => .mark symbol joint .start
  | .literal token _ => .literal token .start
  | .quoted tree _ => .quoted tree.settled .start
  | .group delimiter content _ => .group delimiter (settledAll content) .start

/-- The trees at no particular place. Behind the last one stands nothing that it could be joint
with. -/
def settledAll : List Tree → List Tree
  | [] => []
  | [.mark symbol _ _] => [.mark symbol false .start]
  | head :: tail => head.settled :: settledAll tail
end

end Tree

/-! ## Lexemes -/

/-- What the characters at the front of a text are. -/
inductive Piece where
  | blank
  /-- A documentation comment, for what follows it or, if `inner`, for what surrounds it. -/
  | documentation (inner : Bool) (text : List Char)
  | opening (delimiter : Delimiter)
  | closing (delimiter : Delimiter)
  | literal (kind : LiteralKind)
  | mark (joint : Bool)
  | word
  /-- A quote with the word behind it, or with the literal if that begins like a word. -/
  | quoted (literal : Option LiteralKind)
  deriving Repr

/-- The length of a block comment, comments inside it included. -/
def blockLength : (depth count : Nat) → List Char → Option Nat
  | _, _, [] => none
  | depth, count, '/' :: '*' :: rest => blockLength (depth + 1) (count + 2) rest
  | depth, count, '*' :: '/' :: rest =>
    if depth ≤ 1 then some (count + 2) else blockLength (depth - 1) (count + 2) rest
  | depth, count, _ :: rest => blockLength depth (count + 1) rest

def lineLength : (count : Nat) → List Char → Nat
  | count, [] => count
  | count, '\r' :: '\n' :: _ => count
  | count, '\n' :: _ => count
  | count, _ :: rest => lineLength (count + 1) rest

/-- Whether a carriage return stands without its line feed. -/
def hasBareReturn : List Char → Bool
  | [] => false
  | '\r' :: '\n' :: rest => hasBareReturn rest
  | '\r' :: _ => true
  | _ :: rest => hasBareReturn rest

def documentation? (letters : List Char) : Option (Piece × Nat) :=
  let line (inner : Bool) (body : List Char) :=
    let length := lineLength 0 body
    let text := body.take length
    if hasBareReturn text then none else some (.documentation inner text, length + 3)
  let block (inner : Bool) := do
    let length ← blockLength 0 0 letters
    let text := (letters.take (length - 2)).drop 3
    if hasBareReturn text then none else some (.documentation inner text, length)
  match letters with
  | '/' :: '/' :: '!' :: body => line true body
  | '/' :: '/' :: '/' :: '/' :: _ => none
  | '/' :: '/' :: '/' :: body => line false body
  | '/' :: '*' :: '!' :: _ => block true
  | '/' :: '*' :: '*' :: '*' :: _ => none
  | '/' :: '*' :: '*' :: _ => block false
  | _ => none

def comment? (letters : List Char) : Option Nat :=
  match letters with
  | '/' :: '/' :: '/' :: '/' :: rest => some (lineLength 4 rest)
  | '/' :: '/' :: '/' :: _ => none
  | '/' :: '/' :: '!' :: _ => none
  | '/' :: '/' :: rest => some (lineLength 2 rest)
  | '/' :: '*' :: '*' :: '/' :: _ => some 4
  | '/' :: '*' :: '*' :: '*' :: _ => blockLength 0 0 letters
  | '/' :: '*' :: '*' :: _ => none
  | '/' :: '*' :: '!' :: _ => none
  | '/' :: '*' :: _ => blockLength 0 0 letters
  | _ => none

def markCharacters : List Char :=
  ['~', '!', '@', '#', '$', '%', '^', '&', '*', '-', '=', '+', '|', ';', ':', ',', '<', '.', '>',
    '/', '?', '\'']

/-- Whether a mark begins here. The slash of a comment is none. -/
def beginsMark : List Char → Bool
  | '/' :: '/' :: _ => false
  | '/' :: '*' :: _ => false
  | first :: _ => markCharacters.contains first
  | [] => false

/-- The mark at the front: whether it is joint. A quote is none on its own. -/
def mark? : List Char → Option Bool
  | '\'' :: _ => none
  | letters => if beginsMark letters then some (beginsMark letters.tail) else none

/-- The openings of literals that are no words. -/
def literalOpenings : List (List Char) :=
  [['r', '"'], ['r', '#', '"'], ['r', '#', '#'], ['b', '"'], ['b', '\''], ['b', 'r', '"'],
    ['b', 'r', '#'], ['c', '"'], ['c', 'r', '"'], ['c', 'r', '#']]

def word? (letters : List Char) : Option Nat :=
  if literalOpenings.any (·.isPrefixOf letters) then none
  else do
    let length ← nameLength letters
    match letters with
    | 'r' :: '#' :: _ =>
      let text := String.ofList ((letters.take length).drop 2)
      if unescapableWords.contains text then none else some length
    | _ => some length

/-- Whether a name begins behind a quote, and no quoted character. -/
def beginsLifetime (letters : List Char) : Bool :=
  match nameLength letters with
  | none => false
  | some length =>
    match letters.drop length with
    | '\'' :: _ => false
    | '#' :: _ => ['r', '#'].isPrefixOf letters
    | _ => true

def quoted? (letters : List Char) : Option (Piece × Nat) :=
  if beginsLifetime letters then
    match literalLength letters with
    | some (kind, length) => some (.quoted (some kind), length + 1)
    | none => (word? letters).map fun length => (.quoted none, length + 1)
  else none

def delimiter? : Char → Option Piece
  | '(' => some (.opening .parenthesis)
  | '[' => some (.opening .bracket)
  | '{' => some (.opening .brace)
  | ')' => some (.closing .parenthesis)
  | ']' => some (.closing .bracket)
  | '\x7d' => some (.closing .brace)
  | _ => none

/-- A token that is no delimiter: a literal if it can be one, else a mark or what a quote stands in
front of, else a word. -/
def leaf? (letters : List Char) : Option (Piece × Nat) :=
  match literalLength letters with
  | some (kind, length) => some (.literal kind, length)
  | none =>
    match mark? letters with
    | some joint => some (.mark joint, 1)
    | none =>
      match letters with
      | '\'' :: rest => quoted? rest
      | letters => (word? letters).map fun length => (.word, length)

/-- The piece at the front of a text that is not empty, and how long it is. -/
def piece? (letters : List Char) : Option (Piece × Nat) :=
  match letters with
  | [] => none
  | first :: _ =>
    if isBlank first then some (.blank, 1)
    else
      match comment? letters with
      | some length => some (.blank, length)
      | none =>
        match documentation? letters with
        | some found => some found
        | none => (leaf? letters).or ((delimiter? first).map fun piece => (piece, 1))

/-! ## Reading trees -/

/-- A tree, or one end of a group. -/
inductive Lexeme where
  | tree (tree : Tree)
  | opening (delimiter : Delimiter) (position : Position)
  | closing (delimiter : Delimiter)
  deriving Repr

/-- A documentation comment is an attribute whose name is `doc`. -/
def documentationTrees (inner : Bool) (text : List Char) (position : Position) : List Tree :=
  let literal : Literal := ⟨.text, sourceQuoted (String.ofList text)⟩
  let body := .group .bracket
    [.word (.plain "doc") position, .mark '=' false position, .literal literal position]
    position
  if inner then [.mark '#' false position, .mark '!' false position, body]
  else [.mark '#' false position, body]

def Tree.wordOf (letters : List Char) (position : Position) : Tree :=
  match letters with
  | 'r' :: '#' :: rest => .word ⟨true, String.ofList rest⟩ position
  | letters => .word (.plain (String.ofList letters)) position

def Tree.literalOf (kind : LiteralKind) (letters : List Char) (position : Position) : Tree :=
  .literal ⟨kind, String.ofList letters⟩ position

def Piece.lexemes (piece : Piece) (letters : List Char) (position : Position) : List Lexeme :=
  match piece with
  | .blank => []
  | .documentation inner text => (documentationTrees inner text position).map .tree
  | .opening delimiter => [.opening delimiter position]
  | .closing delimiter => [.closing delimiter]
  | .literal kind => [.tree (.literalOf kind letters position)]
  | .mark joint => letters.map fun symbol => .tree (.mark symbol joint position)
  | .word => [.tree (.wordOf letters position)]
  | .quoted found =>
    let inner := position.advance (letters.take 1)
    let tree := match found with
      | some kind => Tree.literalOf kind letters.tail inner
      | none => Tree.wordOf letters.tail inner
    [.tree (.quoted tree position)]

/-- Splits a text into lexemes, in reverse order. Every piece takes at least one character, so as
much fuel as there are characters is enough. -/
def lexemesReversed : (fuel : Nat) → Position → List Lexeme → List Char → Option (List Lexeme)
  | _, _, found, [] => some found
  | 0, _, _, _ => none
  | fuel + 1, position, found, letters => do
    let (piece, length) ← piece? letters
    let taken := letters.take length
    lexemesReversed fuel (position.advance taken)
      ((piece.lexemes taken position).reverse ++ found) (letters.drop length)

/-- A group that is still open: its delimiter, its place, and the trees before it, last first. -/
structure OpenGroup where
  delimiter : Delimiter
  position : Position
  before : List Tree

/-- Gathers lexemes in groups. `found` holds the trees of the innermost open group, last first. -/
def nest : List OpenGroup → (found : List Tree) → List Lexeme → Option (List Tree)
  | [], found, [] => some found.reverse
  | _ :: _, _, [] => none
  | stack, found, .tree tree :: rest => nest stack (tree :: found) rest
  | stack, found, .opening delimiter position :: rest =>
    nest (⟨delimiter, position, found⟩ :: stack) [] rest
  | [], _, .closing _ :: _ => none
  | innermost :: stack, found, .closing delimiter :: rest =>
    if innermost.delimiter = delimiter then
      nest stack (.group delimiter found.reverse innermost.position :: innermost.before) rest
    else none

def Tree.readFrom? (position : Position) (letters : List Char) : Option (List Tree) := do
  let lexemes ← lexemesReversed letters.length position [] letters
  nest [] [] lexemes.reverse

/-- The trees of a text. A byte order mark at its start is no token and takes no column. -/
def Tree.read? (text : String) : Option (List Tree) :=
  readFrom? .start (dropByteOrderMark text.toList)

/-- Drops the first line if it names an interpreter. A line that begins like an inner attribute is
source text. -/
def dropInterpreterLine (letters : List Char) : List Char :=
  match letters with
  | '#' :: '!' :: rest =>
    let next := skipBlanks rest.length rest
    if next.head? = some '[' then letters else letters.dropWhile (· ≠ '\n')
  | _ => letters
where
  skipBlanks : (fuel : Nat) → List Char → List Char
    | 0, letters => letters
    | fuel + 1, letters =>
      match piece? letters with
      | some (.blank, length) => skipBlanks fuel (letters.drop length)
      | _ => letters

/-- The trees of a whole file. Columns count from the first character after a byte order mark. -/
def Tree.readFile? (letters : List Char) : Option (List Tree) :=
  Tree.readFrom? .start (dropByteOrderMark (dropInterpreterLine (dropByteOrderMark letters)))

end Wireform.Syntax
