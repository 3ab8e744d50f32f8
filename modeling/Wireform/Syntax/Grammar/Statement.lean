import Wireform.Syntax.Grammar.Expression

namespace Wireform.Syntax.Rules

/-! Statements. -/

open Wireform.Syntax.Parser

variable (rules : Rules)

/-- Whether a union declaration begins here; elsewhere its word is a name like any other. -/
def beginsUnion (trees : List Tree) : Bool :=
  Ahead.word "union" trees && Ahead.name (Ahead.skip trees)

/-- Whether an item begins here rather than an expression. -/
def beginsItem (trees : List Tree) : Bool :=
  let second := Ahead.skip trees
  let third := Ahead.skip second
  Ahead.oneWordOf ["pub", "extern", "use", "fn", "mod", "type", "struct", "enum", "trait", "impl",
      "macro"] trees ||
    (Ahead.word "crate" trees && !Ahead.mark "::" second) ||
    (Ahead.word "static" trees &&
      (Ahead.word "mut" second ||
        (Ahead.name second &&
          !(Ahead.word "async" second && (Ahead.word "move" third || Ahead.mark "|" third))))) ||
    (Ahead.word "const" trees &&
      !(Ahead.group .brace second || Ahead.word "static" second ||
        (Ahead.word "async" second && !Ahead.oneWordOf ["unsafe", "extern", "fn"] third) ||
        Ahead.word "move" second || Ahead.mark "|" second)) ||
    (Ahead.word "unsafe" trees && !Ahead.group .brace second) ||
    (Ahead.word "async" trees && Ahead.oneWordOf ["unsafe", "extern", "fn"] second) ||
    beginsUnion trees ||
    (Ahead.word "auto" trees && Ahead.word "trait" second) ||
    (Ahead.word "default" trees && Ahead.oneWordOf ["unsafe", "impl"] second)

inductive Invocation where
  /-- It declares an item. -/
  | item
  /-- Its braces end it as a statement. -/
  | statement
  | expression
  deriving DecidableEq

/-- The invocation at the front, judged by what follows its path. -/
def invocationAhead (trees : List Tree) : Invocation :=
  match modulePath.run trees with
  | some (_, after) =>
    let second := Ahead.skip after
    let third := Ahead.skip second
    if !Ahead.mark "!" after then .expression
    else if Ahead.name second || Ahead.word "try" second then .item
    else if Ahead.group .brace second &&
        !((Ahead.mark "." third && !Ahead.mark ".." third) || Ahead.mark "?" third) then
      .statement
    else .expression
  | none => .expression

def endsInBraces (tokens : List Tree) : Bool :=
  match tokens.getLast? with
  | some tree => tree.isGroup .brace
  | none => false

def localStatement (attributes : Phrase) : Parser Statement := do
  word "let"
  let pattern ← rules.pattern
  let pattern ← if ← takesMark ":" then
      pure (pattern.typed (← rules.type true))
    else pure pattern
  let value ← if ← takesMark "=" then some <$> rules.expression true else pure none
  let canFail := value.any fun value => !endsInBraces value.tokens
  let alternative ← if canFail && (← peek (Ahead.word "else")) then
      word "else"
      some <$> rules.block
    else pure none
  mark ";"
  return .declaration attributes pattern.phrase value (alternative.map Block.small)

/-- A statement that is an expression, and whether a semicolon has to come before another one. -/
def expressionStatement (attributes : Phrase) : Parser (Statement × Bool) := do
  let expression ← rules.bounded attributes
  let ended ← takesMark ";"
  match expression.expr, ended with
  | .invocation delimiter, ended =>
    if ended || delimiter = .brace then
      return (.invocation expression.phrase delimiter ended, false)
    else
      return (.value expression, true)
  | _, true => return (.ended expression, false)
  | _, false => return (.value expression, !expression.manner.selfEnding)

/-- An invocation whose braces end it as a statement. -/
def invocationStatement (attributes : Phrase) : Parser Statement := do
  let path ← modulePath
  mark "!"
  let (delimiter, content) ← anyGroup
  let written := attributes ++ invocationPhrase path none delimiter content
  return .invocation written delimiter (← takesMark ";")

/-- A statement, and whether it lacks a semicolon that another statement would need. -/
def statement : Parser (Statement × Bool) := do
  let before ← get
  let attributes ← rules.outerAttributes
  let trees ← get
  let invocation := invocationAhead trees
  if invocation = .statement then
    return (← invocationStatement (attributesPhrase attributes), false)
  else if Ahead.word "let" trees then
    return (← rules.localStatement (attributesPhrase attributes), false)
  else if beginsItem trees || invocation = .item then
    return (.other (← rules.item before attributes).written, false)
  else
    rules.expressionStatement (attributesPhrase attributes)

def statementsRule : Parser (List Statement) := do
  go (← get).length
where
  go : Nat → Parser (List Statement)
    | 0 => return []
    | rounds + 1 => do
      if ← atEnd then return []
      if ← takesMark ";" then return .nothing :: (← go rounds)
      let (statement, pending) ← rules.statement
      if ← atEnd then return [statement]
      require (!pending)
      return statement :: (← go rounds)

end Wireform.Syntax.Rules
