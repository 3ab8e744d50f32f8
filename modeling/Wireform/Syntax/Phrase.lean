import Wireform.Syntax.Tree
import Wireform.Text.Layout

/-! # Phrases

A phrase is a piece of source text in both forms that it is needed in: as tokens, which tell apart
what is written differently, and as a layout, which is how the piece is written anew. The two agree
but for what a layout leaves to its lines: the last comma of a list, and braces that a single
expression does not need. -/

namespace Wireform.Syntax

open Wireform.Text Wireform.Text.Doc

/-- Items with marks between them, and one more mark after the last if `trailing`. -/
def separated (mark : List Tree) (trailing : Bool) : List (List Tree) → List Tree
  | [] => []
  | [last] => if trailing then last ++ mark else last
  | head :: tail => head ++ mark ++ separated mark trailing tail

def comma : List Tree := Tree.ofOperator ","

def endsWithMark (symbol : Char) (tokens : List Tree) : Bool :=
  match tokens.getLast? with
  | some (.mark last _ _) => last = symbol
  | _ => false

structure Phrase where
  tokens : List Tree
  layout : List Doc
  /-- Whether the phrase has a layout at all. Source texts can hold pieces that are taken as they
  are and never written again. -/
  printable : Bool
  deriving Inhabited

namespace Phrase

def empty : Phrase := ⟨[], [], true⟩

def append (first second : Phrase) : Phrase :=
  ⟨first.tokens ++ second.tokens, first.layout ++ second.layout,
    first.printable && second.printable⟩

instance : Append Phrase := ⟨append⟩

def concat (phrases : List Phrase) : Phrase :=
  ⟨phrases.flatMap tokens, phrases.flatMap layout, phrases.all printable⟩

/-! ## Pieces -/

/-- Tokens that have no place in the layout. -/
def unseen (tokens : List Tree) : Phrase := ⟨tokens, [], true⟩

/-- A layout without tokens. -/
def shown (layout : List Doc) : Phrase := ⟨[], layout, true⟩

/-- Tokens that have no layout. -/
def unprintable (tokens : List Tree) : Phrase := ⟨tokens, [], false⟩

def word (text : String) : Phrase := ⟨[Tree.ofWord text], [.text text], true⟩

/-- A word and a blank that ends no line. -/
def spacedWord (text : String) : Phrase := ⟨[Tree.ofWord text], [.text (text ++ " ")], true⟩

def ofName (name : Name) : Phrase := ⟨[.word name .start], [.text name.spelling], true⟩

def ofLifetime (name : Name) : Phrase :=
  ⟨[.quoted (.word name .start) .start], [.text ("'" ++ name.spelling)], true⟩

def mark (symbols : String) : Phrase := ⟨Tree.ofOperator symbols, [.text symbols], true⟩

example : (mark "::").tokens.length = 2 := by decide

/-- The marks of an operator, with blanks around them as `spelling` has them. -/
def spacedMark (symbols spelling : String) : Phrase :=
  ⟨Tree.ofOperator symbols, [.text spelling], true⟩

/-- A literal. The sign of a negative number is a token of its own. -/
def ofLiteral (literal : Literal) : Phrase :=
  let tokens := match literal.spelling.toList with
    | '-' :: rest => [.mark '-' false .start, .literal ⟨literal.kind, String.ofList rest⟩ .start]
    | _ => [.literal literal .start]
  ⟨tokens, [.text literal.spelling], true⟩

/-- A blank that ends no line. -/
def blank : Phrase := shown [.text " "]

def gap (gap : Gap) : Phrase := shown [.gap gap]

def lineEnd : Phrase := gap .lineEnd

/-! ## Boxes and groups -/

def stack (shift : Int) (content : Phrase) : Phrase :=
  { content with layout := [Doc.stack shift content.layout] }

def fill (shift : Int) (content : Phrase) : Phrase :=
  { content with layout := [Doc.fill shift content.layout] }

/-- Takes the last gap one level out, for the closing mark behind it. -/
def closing (content : Phrase) : Phrase := { content with layout := Doc.closing content.layout }

def group (delimiter : Delimiter) (content : Phrase) : Phrase :=
  { content with
    tokens := [.group delimiter content.tokens .start]
    layout := .text delimiter.opening :: content.layout ++ [.text delimiter.closing] }

def inParentheses (content : Phrase) : Phrase := group .parenthesis content

def inBrackets (content : Phrase) : Phrase := group .bracket content

def inBraces (content : Phrase) : Phrase := group .brace content

/-! ## Lists -/

def ofOption : Option Phrase → Phrase
  | some phrase => phrase
  | none => empty

/-- Phrases with the same piece between any two. -/
def joined (between : Phrase) : List Phrase → Phrase
  | [] => empty
  | [last] => last
  | head :: tail => concat [head, between, joined between tail]

/-- A last mark that is written but not laid out. -/
def trailingMark (symbols : String) (trailing : Bool) : Phrase :=
  if trailing then unseen (Tree.ofOperator symbols) else empty

def plusSeparated (bounds : List Phrase) (trailing : Bool) : Phrase :=
  let between := spacedMark "+" " + "
  joined between bounds ++ trailingMark "+" (trailing && !bounds.isEmpty)

/-- Phrases with plus signs between them, which break before the signs. -/
def brokenPlusSeparated (bounds : List Phrase) (trailing : Bool) : Phrase :=
  let between := gap .blank ++ spacedMark "+" "+ "
  joined between bounds ++ trailingMark "+" (trailing && !bounds.isEmpty)

/-- A comma and a gap after each phrase. The last comma is laid out only at the end of a line; it is
among the tokens if it is `trailing`. -/
def commaSeparated (last : Gap) (trailing : Bool) : List Phrase → Phrase
  | [] => empty
  | [phrase] => concat [phrase, trailingMark "," trailing, gap last]
  | head :: tail => concat [head, mark ",", gap .blank, commaSeparated last trailing tail]

def separatedTokens (list : List Phrase) (trailing : Bool) : List Tree :=
  separated comma trailing (list.map tokens)

/-- A list of phrases, indented by `shift` where it takes more than one line. -/
def items (shift : Int) (list : List Phrase) (trailing : Bool) : Phrase :=
  stack shift (closing (gap .empty ++ commaSeparated .afterLast trailing list))

/-- A list that is one phrase with a comma after it. -/
def single (phrase : Phrase) : Phrase :=
  stack Layout.indent (concat [gap .empty, phrase, mark ",", gap Gap.empty.outward])

end Phrase

end Wireform.Syntax
