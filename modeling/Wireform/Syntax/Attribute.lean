import Wireform.Syntax.Phrase.Expression

/-! # Attributes

Attributes of declarations, and how they are written. One that holds documentation is written as a
comment where a comment can hold its text. -/

namespace Wireform.Syntax

open Wireform.Text Phrase

/-- What an attribute has after its path. -/
inductive AttributeContent where
  | none
  | list (delimiter : Delimiter) (tokens : List Tree)
  | value (expression : Expr)
  deriving Inhabited

/-- An attribute, with the place where its path starts. -/
structure Attribute where
  path : Path
  position : Position
  content : AttributeContent
  written : Phrase
  deriving Inhabited

/-! ## Comments -/

/-- Blanks at the end of every line but the last are left out. -/
def withoutInnerBlanks : List (List Char) → List Char
  | [] => []
  | [last] => last
  | line :: rest =>
    (line.reverse.dropWhile (· = ' ')).reverse ++ '\n' :: withoutInnerBlanks rest

/-- Whether every comment that begins in a text ends in it, and no other ends. -/
def isBalancedComment : (depth : Nat) → List Char → Bool
  | depth, '/' :: '*' :: rest => isBalancedComment (depth + 1) rest
  | depth, '*' :: '/' :: rest => depth ≠ 0 && isBalancedComment (depth - 1) rest
  | depth, _ :: rest => isBalancedComment depth rest
  | depth, [] => depth = 0

/-- How a comment opens: the marks of one that is a line, and of one that is a block. The text of a
comment must not go on as if it were a comment of another kind. -/
structure CommentStyle where
  line : String
  block : String
  lineExcept : List Char
  blockExcept : List Char

namespace CommentStyle

def outerDocumentation : CommentStyle := ⟨"///", "/**", ['/'], ['*', '/']⟩

def innerDocumentation : CommentStyle := ⟨"//!", "/*!", [], []⟩

def plain : CommentStyle := ⟨"//", "/*", [], ['*', '!']⟩

def comment? (style : CommentStyle) (text : String) : Option String :=
  let letters := text.toList
  let begins (marks : List Char) : Bool := letters.head?.any marks.contains
  if !letters.contains '\n' && !begins style.lineExcept then
    some (style.line ++ String.ofList (letters.reverse.dropWhile (· = ' ')).reverse)
  else if isBalancedComment 0 letters && letters.getLast? ≠ some '/' &&
      !begins style.blockExcept then
    some (style.block ++ String.ofList (withoutInnerBlanks (letters.splitOn '\n')) ++ "*/")
  else none

end CommentStyle

def commentText? (inner : Bool) (path : Path) : Expr → Option String
  | .literal token => do
    let text ← token.text?
    if path.isName "doc" then
      (if inner then CommentStyle.innerDocumentation else .outerDocumentation).comment? text
    else if path.isName "comment" then CommentStyle.plain.comment? text
    else none
  | _ => none

/-! ## Token lists -/

inductive ListContext where
  | named
  | marked
  deriving DecidableEq

mutual
/-- A group in a list. One in parentheses can take lines of its own. -/
def Tree.listGroup (delimiter : Delimiter) (content : List Tree) : List Doc :=
  let inner := Tree.listLayouts .marked content
  match delimiter with
  | .parenthesis =>
    let last := if endsWithMark ',' content then [] else [.gap .empty]
    [.text "(",
      Doc.stack Layout.indent (Doc.closing (.gap .empty :: inner ++ last)), .text ")"]
  | delimiter => .text delimiter.opening :: inner ++ [.text delimiter.closing]

/-- The tokens of a list, with blanks between names, around an equals sign behind a name, and behind
commas. -/
def Tree.listLayouts (context : ListContext) : List Tree → List Doc
  | [] => []
  | .mark symbol _ _ :: tail =>
    let before := if context = .named && symbol = '=' then [Doc.text " "] else []
    if symbol = ',' && tail.isEmpty then before ++ [.gap .afterLast]
    else
      let after :=
        if symbol = '=' then [Doc.text " "] else if symbol = ',' then [.gap .blank] else []
      before ++ .text (String.singleton symbol) :: after ++ Tree.listLayouts .marked tail
  | .group delimiter content _ :: tail =>
    Tree.listGroup delimiter content ++ Tree.listLayouts .marked tail
  | .quoted name position :: tail =>
    .text (Tree.quoted name position).text :: Tree.listLayouts .named tail
  | .word name _ :: tail =>
    (if context = .named then [.gap .blank] else []) ++ .text name.spelling ::
      Tree.listLayouts .named tail
  | .literal token _ :: tail =>
    (if context = .named then [.gap .blank] else []) ++ .text token.spelling ::
      Tree.listLayouts .named tail
end

/-! ## Attributes -/

namespace Attribute

def bracketed (inner : Bool) (content : Phrase) : Phrase :=
  concat [mark "#", if inner then mark "!" else empty, inBrackets content]

/-- What follows an attribute: the gap in front of what it belongs to. -/
def withGap (written : Phrase) (comment : Option String) : Phrase :=
  match comment with
  | some comment => ⟨written.tokens, [.text comment, .gap .lineEnd], true⟩
  | none => written ++ Phrase.gap .blank

def ofPath (inner : Bool) (path : Path) (position : Position) : Attribute :=
  ⟨path, position, .none, withGap (bracketed inner (path.phrase false)) none⟩

def ofList (inner : Bool) (path : Path) (position : Position) (delimiter : Delimiter)
    (tokens : List Tree) : Attribute :=
  let list : Phrase :=
    ⟨[.group delimiter tokens .start], Tree.listGroup delimiter tokens, true⟩
  ⟨path, position, .list delimiter tokens,
    withGap (bracketed inner (path.phrase false ++ list)) none⟩

def ofValue (inner : Bool) (path : Path) (position : Position) (value : ExprPhrase) : Attribute :=
  let written := concat [path.phrase false, spacedMark "=" " = ", value.phrase]
  ⟨path, position, .value value.expr,
    withGap (bracketed inner written) (commentText? inner path value.expr)⟩

end Attribute

def attributesPhrase (attributes : List Attribute) : Phrase :=
  concat (attributes.map Attribute.written)

end Wireform.Syntax
