import Wireform.Syntax.Phrase.Expression

/-! # Patterns as phrases -/

namespace Wireform.Syntax

open Wireform.Text Phrase

structure PatternPhrase where
  phrase : Phrase
  /-- Whether the pattern is a range that is open at one end. -/
  openRange : Bool := false
  /-- Whether the pattern stands for all that is left of a list. -/
  isRest : Bool := false
  /-- Whether many such patterns fill the lines of alternatives. -/
  simple : Bool := false

namespace PatternPhrase

def ofPhrase (phrase : Phrase) : PatternPhrase := { phrase := phrase }

def verbatim (tokens : List Tree) : PatternPhrase := ofPhrase (unprintable tokens)

def wildcard : PatternPhrase := { phrase := word "_", simple := true }

def rest : PatternPhrase := { phrase := mark "..", isRest := true }

def ofExpr (expression : ExprPhrase) : PatternPhrase := ofPhrase expression.phrase

def literal (token : ExprPhrase) : PatternPhrase := { phrase := token.phrase, simple := true }

def range (first : Option ExprPhrase) (dots : String) (last : Option ExprPhrase) :
    PatternPhrase :=
  { phrase := (ExprPhrase.range first dots last).phrase
    openRange := first.isNone || last.isNone }

/-- A variable, bound by reference or to change, possibly to what a further pattern matches. -/
def binding (byReference mutable : Bool) (name : Name) (inner : Option PatternPhrase) :
    PatternPhrase :=
  ofPhrase (concat [if byReference then spacedWord "ref" else empty,
    if mutable then spacedWord "mut" else empty, ofName name,
    ofOption (inner.map fun inner => spacedMark "@" " @ " ++ inner.phrase)])

def reference (mutable : Bool) (inner : PatternPhrase) : PatternPhrase :=
  ofPhrase (concat [mark "&", if mutable then spacedWord "mut" else empty, inner.phrase])

def alternatives (leading : Bool) (first : PatternPhrase) (more : List PatternPhrase) :
    PatternPhrase :=
  if !leading && more.isEmpty then first
  else
    let cases := first :: more
    let bar := if leading then unseen (Tree.ofOperator "|") else empty
    let content := joined (gap .blank ++ spacedMark "|" "| ") (cases.map phrase)
    let boxed := if cases.all (·.simple) then fill 0 content else stack 0 content
    ofPhrase (bar ++ boxed)

def grouped (inner : PatternPhrase) : PatternPhrase := ofPhrase (inParentheses inner.phrase)

/-- A tuple. A comma tells one pattern in parentheses from a tuple of one. -/
def tuple (patterns : List PatternPhrase) (trailing : Bool) : PatternPhrase :=
  ofPhrase <| inParentheses <| match patterns with
    | [only] =>
      let comma := if trailing then mark "," else empty
      stack Layout.indent (concat [gap .empty, only.phrase, comma, gap Gap.empty.outward])
    | patterns => items Layout.indent (patterns.map phrase) trailing

def slice (patterns : List PatternPhrase) (trailing : Bool) : PatternPhrase :=
  ofPhrase (inBrackets (items Layout.indent (patterns.map phrase) trailing))

def tupleStruct (path : Phrase) (patterns : List PatternPhrase) (trailing : Bool) :
    PatternPhrase :=
  ofPhrase (path ++ inParentheses (items Layout.indent (patterns.map phrase) trailing))

/-- A field of a struct pattern; without a name, the pattern's variable has the field's name. -/
def field (attributes : Phrase) (name : Option Phrase) (pattern : PatternPhrase) : Phrase :=
  concat [attributes, ofOption (name.map fun name => name ++ spacedMark ":" ": "),
    pattern.phrase]

/-- A struct's name and the patterns for its fields. The `rest`, with its attributes, stands for
all fields that are not named. -/
def struct (path : Phrase) (fields : List Phrase) (trailing : Bool) (rest : Option Phrase) :
    PatternPhrase :=
  let content := match rest with
    | none => commaSeparated .blankAfterLast trailing fields
    | some rest =>
      let separate := concat (fields.map fun field => concat [field, mark ",", gap .blank])
      concat [separate, rest, mark "..", gap .blank]
  let opened := path.layout ++ .text " \x7b" :: Doc.closing (.gap .optionalBlank :: content.layout)
  ofPhrase ⟨path.tokens ++ [.group .brace content.tokens .start],
    [Doc.stack Layout.indent opened, .text "\x7d"], path.printable && content.printable⟩

def typed (pattern : PatternPhrase) (ty : Ty) : PatternPhrase :=
  ofPhrase (concat [pattern.phrase, spacedMark ":" ": ", ty.phrase])

end PatternPhrase

end Wireform.Syntax
