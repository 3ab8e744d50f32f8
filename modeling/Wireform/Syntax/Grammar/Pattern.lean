import Wireform.Syntax.Grammar.Type

namespace Wireform.Syntax.Rules

/-! Patterns. Nothing is ever asked of a pattern but how it is written, and that it is not a range
open at one end where such a range could be misread. -/

open Wireform.Syntax.Parser

variable (rules : Rules)

def beginsAlternative (trees : List Tree) : Bool :=
  Ahead.mark "|" trees && !Ahead.mark "||" trees && !Ahead.mark "|=" trees

/-- A pattern with alternatives, and possibly a bar in front. -/
def alternatives : Parser PatternPhrase := do
  let leading ← takesMark "|"
  let first ← rules.pattern
  let more ← manyWhile beginsAlternative do
    mark "|"
    rules.pattern
  return .alternatives leading first more

/-- A path, or one that starts at a type, as an expression writes it. Yields whether an invocation
can begin with it. -/
def expressionPath : Parser (ExprPhrase × Option Path) := do
  if ← peek (Ahead.mark "<") then
    return (.projection (← rules.projection true), none)
  else
    let path ← rules.path true
    return (.path path, if path.isPlain then some path else none)

def endsRange (trees : List Tree) : Bool :=
  trees.isEmpty || Ahead.mark "|" trees || Ahead.mark "=" trees ||
    (Ahead.mark ":" trees && !Ahead.mark "::" trees) || Ahead.mark "," trees ||
    Ahead.mark ";" trees || Ahead.word "if" trees

def constantBlock : Parser ExprPhrase := do
  word "const"
  return .wordBlock (.spacedWord "const") (← rules.attributedBlock) true

/-- One end of a range: a literal, a path or a constant block, if it is there. -/
def rangeBound : Parser (Option ExprPhrase) := do
  if ← peek endsRange then return none
  if ← peek Ahead.literal then return some (← literal)
  else if ← peek beginsPath then return some (← rules.expressionPath).1
  else return some (← rules.constantBlock)

/-- The dots of a range in a pattern: whether the range includes its end. -/
def patternDots : Parser Bool := do
  if ← takesMark "..=" then return true
  else if ← takesMark "..." then return true
  else
    mark ".."
    return false

def rangeDots (closed : Bool) : String := if closed then "..=" else ".."

def rangeAfterBound (first : ExprPhrase) : Parser PatternPhrase := do
  let closed ← patternDots
  let last ← rules.rangeBound
  require (last.isSome || !closed)
  return .range (some first) (rangeDots closed) last

def beginsDots (trees : List Tree) : Bool := Ahead.mark ".." trees

/-- Patterns in parentheses, and whether a comma follows the last of them. -/
def patternList : Parser (List PatternPhrase × Bool) :=
  inside .parenthesis (commaList rules.alternatives)

def tuplePattern : Parser PatternPhrase := do
  let (patterns, trailing) ← rules.patternList
  match patterns, trailing with
  | [only], false => return if only.isRest then .tuple [only] false else .grouped only
  | patterns, trailing => return .tuple patterns trailing

/-- The least number that is too large for a tuple's index. -/
def indexBound : Nat := 0x100000000

/-- A field's name, or its index as a text. -/
structure Member where
  name : Name
  named : Bool

def Member.phrase (member : Member) : Phrase :=
  if member.named then .ofName member.name else .ofLiteral ⟨.integer, member.name.text⟩

def member : Parser Member := do
  if ← peek Ahead.name then return ⟨← name, true⟩
  else
    match ← tree with
    | .literal token _ =>
      match token.number? with
      | some number =>
        require (number < indexBound)
        return ⟨.plain (toString number), false⟩
      | none => failure
    | _ => failure

def fieldPattern (attributes : Phrase) : Parser Phrase := do
  let before ← get
  let boxed ← takesWord "box"
  let byReference ← takesWord "ref"
  let mutable ← takesWord "mut"
  if boxed || byReference || mutable then
    let name ← name
    let tokens ← tokensSince before
    let pattern : PatternPhrase :=
      if boxed then .verbatim tokens else .binding byReference mutable name none
    return PatternPhrase.field attributes none pattern
  else
    let member ← member
    if !member.named then
      mark ":"
      return PatternPhrase.field attributes (some member.phrase) (← rules.alternatives)
    else if ← takesMark ":" then
      return PatternPhrase.field attributes (some member.phrase) (← rules.alternatives)
    else
      return PatternPhrase.field attributes none (.binding false false member.name none)

/-- The fields of a struct pattern, whether a comma follows the last of them, and the attributes of
the dots that stand for all others. -/
def structPatternFields : Parser (List Phrase × Bool × Option Phrase) :=
  inside .brace do
    go (← get).length false
where
  go : Nat → Bool → Parser (List Phrase × Bool × Option Phrase)
    | 0, trailing => do
      require (← atEnd)
      return ([], trailing, none)
    | rounds + 1, trailing => do
      if ← atEnd then return ([], trailing, none)
      let attributes ← rules.outerPhrase
      if ← takesMark ".." then
        require (← atEnd)
        return ([], trailing, some attributes)
      else
        let field ← rules.fieldPattern attributes
        if ← atEnd then return ([field], false, none)
        mark ","
        let (fields, trailing, rest) ← go rounds true
        return (field :: fields, trailing, rest)

def pathPattern : Parser PatternPhrase := do
  let (path, plain?) ← rules.expressionPath
  let invoked ← peek fun trees => Ahead.mark "!" trees && !Ahead.mark "!=" trees
  match plain?, invoked with
  | some plain, true =>
    mark "!"
    let (delimiter, content) ← anyGroup
    return .ofPhrase (invocationPhrase plain none delimiter content)
  | _, _ =>
    if ← peek (Ahead.group .brace) then
      let (fields, trailing, rest) ← rules.structPatternFields
      return .struct path.phrase fields trailing rest
    else if ← peek (Ahead.group .parenthesis) then
      let (patterns, trailing) ← rules.patternList
      return .tupleStruct path.phrase patterns trailing
    else if ← peek beginsDots then rules.rangeAfterBound path
    else return .ofExpr path

def namePattern : Parser PatternPhrase := do
  let byReference ← takesWord "ref"
  let mutable ← takesWord "mut"
  let name ← nameOr "self"
  let inner ← if ← takesMark "@" then some <$> rules.pattern else pure none
  return .binding byReference mutable name inner

def literalPattern : Parser PatternPhrase := do
  let isLiteral ← peek Ahead.literal
  match ← rules.rangeBound with
  | some first =>
    if ← peek beginsDots then rules.rangeAfterBound first
    else return if isLiteral then .literal first else .ofExpr first
  | none => failure

def slicePattern : Parser PatternPhrase :=
  inside .bracket do
    let (patterns, trailing) ← commaList rules.alternatives
    require (patterns.all fun pattern => !pattern.openRange)
    return .slice patterns trailing

/-- A range without a first end, or the dots that stand for the rest of a list. -/
def leadingDots : Parser PatternPhrase := do
  let closed ← takesMark "..="
  if !closed then mark ".."
  let last ← rules.rangeBound
  require (last.isSome || !closed)
  return if last.isSome then .range none (rangeDots closed) last else .rest

/-- Whether a path comes next rather than a name to bind. -/
def beginsPathPattern (trees : List Tree) : Bool :=
  let after := Ahead.skip trees
  (Ahead.name trees && (Ahead.mark "::" after || Ahead.mark "!" after ||
      Ahead.group .brace after || Ahead.group .parenthesis after || Ahead.mark ".." after)) ||
    (Ahead.word "self" trees && Ahead.mark "::" after) || Ahead.mark "::" trees ||
    Ahead.mark "<" trees || Ahead.oneWordOf ["Self", "super", "crate"] trees

/-- A pattern that allocates, which is taken as it is. -/
def boxPattern : Parser PatternPhrase := do
  let before ← get
  word "box"
  discard rules.pattern
  return .verbatim (← tokensSince before)

def patternRule : Parser PatternPhrase := do
  if ← peek beginsPathPattern then rules.pathPattern
  else if ← takesWord "_" then return .wildcard
  else if ← peek (Ahead.word "box") then rules.boxPattern
  else if ← peek fun trees =>
      Ahead.mark "-" trees || Ahead.literal trees || Ahead.word "const" trees then
    rules.literalPattern
  else if ← peek fun trees => Ahead.oneWordOf ["ref", "mut", "self"] trees || Ahead.name trees then
    rules.namePattern
  else if ← takesMark "&" then
    let mutable ← takesWord "mut"
    return .reference mutable (← rules.pattern)
  else if ← peek (Ahead.group .parenthesis) then rules.tuplePattern
  else if ← peek (Ahead.group .bracket) then rules.slicePattern
  else if ← peek fun trees => Ahead.mark ".." trees && !Ahead.mark "..." trees then
    rules.leadingDots
  else failure

end Wireform.Syntax.Rules
