import Wireform.Syntax.Phrase.Type

/-! # Invocations as phrases

How the tokens between the delimiters of an invocation are written. Nothing is known of them but
their neighbours, so the gap in front of a token depends on what the tokens before it look like. -/

namespace Wireform.Syntax

open Wireform.Text Phrase

/-- Words that never stand directly behind a point or a separator. -/
def reservedWords : List String :=
  ["as", "async", "await", "box", "break", "const", "continue", "crate", "dyn", "else", "enum",
    "extern", "fn", "for", "if", "impl", "in", "let", "loop", "macro", "match", "mod", "move",
    "mut", "pub", "ref", "return", "static", "struct", "trait", "type", "unsafe", "use", "where",
    "while", "yield"]

/-- What the tokens before a gap look like. A variable is a name after a dollar sign; in a pattern
it goes on with a colon and its kind, and a repetition with the sign that says how often. -/
inductive TokenContext where
  | start
  | dollar
  | variableName
  | variableColon
  | repetition
  | repetitionSeparator
  | pound
  | poundBang
  | point
  | colon
  | separator
  | named
  | namedBang
  | delimited
  | other
  deriving DecidableEq, Repr

namespace TokenContext

/-- Whether a blank stands before a token that nothing special is known of, and what it becomes. -/
def afterAny (context : TokenContext) (pattern : Bool) : Tree → Bool × TokenContext
  | .group .parenthesis _ _ => (true, .delimited)
  | .group .bracket _ _ => (true, .delimited)
  | .group .brace _ _ => (true, .other)
  | .word name _ =>
    if reservedWords.contains name.spelling then (true, .other)
    else (context ≠ .point && context ≠ .separator, .named)
  | .literal _ _ => (context ≠ .point, .named)
  | .quoted name _ => (true, (other.afterAny pattern name).2)
  | .mark ',' _ _ => (false, .other)
  | .mark ';' _ _ => (false, .other)
  | .mark '.' _ _ =>
    if pattern then (true, .other) else (context ≠ .named && context ≠ .delimited, .point)
  | .mark ':' joint _ => if joint then (context ≠ .named, .colon) else (true, .other)
  | .mark '$' _ _ => (true, .dollar)
  | .mark '#' _ _ => (true, .pound)
  | .mark _ _ _ => (true, .other)

/-- Whether a blank stands before a token, and what the context becomes behind it. -/
def step (context : TokenContext) (pattern : Bool) (token : Tree) : Bool × TokenContext :=
  match context, token with
  | .dollar, .word _ _ => (false, if pattern then .variableName else .other)
  | .variableName, .mark ':' false _ => (false, .variableColon)
  | .variableColon, .word _ _ => (false, .other)
  | .repetition, .mark symbol joint _ =>
    if joint then (false, .repetition)
    else if symbol = '+' || symbol = '*' || symbol = '?' then (false, .other)
    else (false, .repetitionSeparator)
  | .repetition, .word _ _ => (false, .repetitionSeparator)
  | .repetition, .literal _ _ => (false, .repetitionSeparator)
  | .repetition, .quoted _ _ => (false, .repetitionSeparator)
  | .repetitionSeparator, .mark '+' _ _ => (false, .other)
  | .repetitionSeparator, .mark '*' _ _ => (false, .other)
  | .pound, .mark '!' _ _ => (false, .poundBang)
  | .dollar, .group .parenthesis _ _ => (false, .repetition)
  | .pound, .group .bracket _ _ => (false, .other)
  | .poundBang, .group .bracket _ _ => (false, .other)
  | .named, .group .parenthesis _ _ => (false, .delimited)
  | .named, .group .bracket _ _ => (false, .delimited)
  | .named, .mark '!' false _ => (false, .namedBang)
  | .namedBang, .group .parenthesis _ _ => (false, .other)
  | .namedBang, .group .bracket _ _ => (false, .other)
  | .colon, .mark ':' _ _ => (false, .separator)
  | context, token => context.afterAny pattern token

end TokenContext

/-- Whether the next token follows this one without a gap. -/
def Tree.isJoint : Tree → Bool
  | .mark symbol joint _ => joint || symbol = '$'
  | _ => false

/-- The gap before a token. A point can begin a line even where no blank stands before it. -/
def gapBeforeToken (joint spaced : Bool) : Tree → List Doc
  | .mark '.' _ _ => if joint then [] else [.gap (if spaced then .blank else .empty)]
  | _ => if joint || !spaced then [] else [.gap .blank]

mutual
/-- A token of an invocation, or of a pattern that invocations are compared with. -/
def Tree.invocationLayout (pattern : Bool) : Tree → List Doc
  | .group delimiter content _ =>
    let inner := Tree.invocationLayouts pattern .start true content
    let inner := if delimiter = .brace && !content.isEmpty then
        [.gap .blank] ++ inner ++ [.gap .blank]
      else inner
    .text delimiter.opening :: inner ++ [.text delimiter.closing]
  | .word name _ => [.text name.spelling]
  | .mark symbol _ _ => [.text (String.singleton symbol)]
  | .literal token _ => [.text token.spelling]
  | .quoted name _ => .text "'" :: name.invocationLayout pattern

def Tree.invocationLayouts (pattern : Bool) (context : TokenContext) (joint : Bool) :
    List Tree → List Doc
  | [] => []
  | head :: tail =>
    let (spaced, next) := context.step pattern head
    gapBeforeToken joint spaced head ++ head.invocationLayout pattern ++
      Tree.invocationLayouts pattern next head.isJoint tail
end

/-- Content between two gaps that break together, or nothing where there is no content. -/
def spreadContent (pattern : Bool) (edge : Gap) (content : List Tree) : List Doc :=
  if content.isEmpty then []
  else
    [Doc.stack Layout.indent
      [.gap edge, Doc.fill 0 (Tree.invocationLayouts pattern .start true content),
        .gap edge.outward]]

/-- An invocation. The name is that of what it defines, if it defines something. -/
def invocationPhrase (path : Path) (name : Option Name) (delimiter : Delimiter)
    (content : List Tree) : Phrase :=
  let defined := name.map fun name => blank ++ ofName name
  let head := concat [path.phrase false, mark "!", ofOption defined]
  let body := match delimiter with
    | .brace => .text " \x7b" :: spreadContent false .lineEnd content
    | delimiter => .text delimiter.opening :: spreadContent false .empty content
  head ++ ⟨[.group delimiter content .start], body ++ [.text delimiter.closing], true⟩

/-! ## Definitions by rules -/

/-- What is expected next in a definition by rules: `pattern => expansion;` and so on. -/
inductive RulePart where
  | pattern
  | arrowStem
  | arrowHead
  | expansion
  | semicolon
  deriving DecidableEq, Repr

def rulesLayout : RulePart → List Tree → Option (List Doc)
  | .pattern, [] => some []
  | .semicolon, [] => some [.text ";", .gap .lineEnd]
  | _, [] => some [.gap .lineEnd]
  | .pattern, .group delimiter content _ :: tail => do
    let rest ← rulesLayout .arrowStem tail
    return .text delimiter.opening :: spreadContent true .empty content ++
      .text delimiter.closing :: rest
  | .arrowStem, .mark '=' true _ :: tail => return .text " =" :: (← rulesLayout .arrowHead tail)
  | .arrowHead, .mark '>' false _ :: tail => return .text ">" :: (← rulesLayout .expansion tail)
  | .expansion, .group _ content _ :: tail => do
    let rest ← rulesLayout .semicolon tail
    return [.text " \x7b", .gap .solidEmpty] ++ spreadContent false .lineEnd content ++
      .text "\x7d" :: rest
  | .semicolon, .mark ';' false _ :: tail =>
    return [.text ";", .gap .lineEnd] ++ (← rulesLayout .pattern tail)
  | _, _ => none

/-- The definition of something that can be invoked. One that is no list of rules is never
written. -/
def rulesPhrase (path : Path) (name : Name) (delimiter : Delimiter) (content : List Tree) :
    Phrase :=
  let tokens := (path.phrase false).tokens ++ Tree.ofOperator "!" ++
    [.word name .start, .group delimiter content .start]
  match rulesLayout .pattern content with
  | some rules =>
    ⟨tokens,
      [.text ("macro_rules! " ++ name.spelling ++ " \x7b"),
        Doc.stack Layout.indent (Doc.closing (.gap .optionalLineEnd :: rules)), .text "\x7d"],
      true⟩
  | none => unprintable tokens

end Wireform.Syntax
