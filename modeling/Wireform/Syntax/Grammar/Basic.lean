import Wireform.Syntax.Phrase.Item

namespace Wireform.Syntax

/-! Parsers over token trees. A parser takes trees off the front of a list and fails without a
reason: no reader of a source text is told more than that it does not parse. Trees that are kept as
they are written keep no places. -/

abbrev Parser := StateT (List Tree) Option

/-! ## Looking at the front -/

namespace Ahead

/-- Whether a word comes next that names an item. -/
def name : List Tree → Bool
  | .word name _ :: _ => name.isFree
  | _ => false

/-- Whether any word comes next, a keyword included. -/
def anyWord : List Tree → Bool
  | .word _ _ :: _ => true
  | _ => false

def word (text : String) : List Tree → Bool
  | .word name _ :: _ => name.isWord text
  | _ => false

def oneWordOf (texts : List String) (trees : List Tree) : Bool := texts.any (word · trees)

def symbols : List Char → List Tree → Bool
  | [], _ => true
  | [last], .mark symbol _ _ :: _ => symbol = last
  | first :: rest, .mark symbol joint _ :: trees => symbol = first && joint && symbols rest trees
  | _, _ => false

/-- Whether the marks of an operator come next, without gaps between them. A longer operator that
begins like it counts too. -/
def mark (operator : String) (trees : List Tree) : Bool := symbols operator.toList trees

def group (delimiter : Delimiter) : List Tree → Bool
  | tree :: _ => tree.isGroup delimiter
  | [] => false

def anyGroup : List Tree → Bool
  | .group _ _ _ :: _ => true
  | _ => false

def lifetime : List Tree → Bool
  | .quoted (.word _ _) _ :: _ => true
  | _ => false

/-- Whether a literal comes next, a truth value and a negative number included. -/
def literal : List Tree → Bool
  | .literal _ _ :: _ => true
  | .word name _ :: _ => name.isWord "true" || name.isWord "false"
  | .mark '-' _ _ :: .literal token _ :: _ => token.kind = .integer || token.kind = .float
  | _ => false

def textLiteral : List Tree → Bool
  | .literal token _ :: _ => token.kind = .text
  | _ => false

def skip (trees : List Tree) : List Tree := trees.tail

/-- Whether words come next that start a path from a module. -/
def pathWord (trees : List Tree) : Bool :=
  name trees || oneWordOf ["self", "super", "crate"] trees || mark "::" trees

end Ahead

namespace Parser

def peek (ahead : List Tree → Bool) : Parser Bool := do return ahead (← get)

def require (condition : Bool) : Parser Unit := if condition then pure () else failure

def tree : Parser Tree := do
  match ← get with
  | head :: rest => set rest; return head
  | [] => failure

def atEnd : Parser Bool := peek List.isEmpty

/-- The name that a tree is. The words of a source text are identifiers; those of other trees have to
be. -/
def nameOf : Tree → Parser Name
  | .word name _ => do
    require (Text.isIdentifierText name.text.toList)
    return name
  | _ => failure

def anyName : Parser Name := do nameOf (← tree)

def name : Parser Name := do
  let name ← anyName
  require name.isFree
  return name

/-- Takes a word that names an item, or this keyword in its place. -/
def nameOr (exception : String) : Parser Name := do
  let name ← anyName
  require (name.isFree || name.isWord exception)
  return name

def takesWord (text : String) : Parser Bool := do
  if ← peek (Ahead.word text) then
    let _ ← tree
    return true
  else
    return false

def word (text : String) : Parser Unit := do require (← takesWord text)

def takesMark (operator : String) : Parser Bool := do
  let trees ← get
  if Ahead.mark operator trees then
    set (trees.drop operator.length)
    return true
  else
    return false

def mark (operator : String) : Parser Unit := do require (← takesMark operator)

def lifetime : Parser Name := do
  match ← tree with
  | .quoted name _ => nameOf name
  | _ => failure

def optionalLifetime : Parser (Option Name) := do
  if ← peek Ahead.lifetime then return some (← lifetime) else return none

/-- Takes a group and parses all of its content. -/
def inside {α : Type} (delimiter : Delimiter) (content : Parser α) : Parser α := do
  match ← tree with
  | .group other trees _ =>
    require (other = delimiter)
    match content.run trees with
    | some (value, []) => return value
    | _ => failure
  | _ => failure

/-- Takes all trees that are left. -/
def everything : Parser (List Tree) := do
  let trees ← get
  set ([] : List Tree)
  return Tree.settledAll trees

def anyGroup : Parser (Delimiter × List Tree) := do
  match ← tree with
  | .group delimiter content _ => return (delimiter, Tree.settledAll content)
  | _ => failure

/-- A literal or a truth value; a number may be negative. -/
def literal : Parser ExprPhrase := do
  match ← tree with
  | .literal token _ => return .literal token
  | .word name _ =>
    if name.isWord "true" then return .truth true
    else if name.isWord "false" then return .truth false
    else failure
  | .mark '-' _ _ =>
    match ← tree with
    | .literal token _ =>
      require (token.kind = .integer || token.kind = .float)
      return .literal ⟨token.kind, "-" ++ token.spelling⟩
    | _ => failure
  | _ => failure

def textLiteral : Parser Literal := do
  match ← tree with
  | .literal token _ =>
    require (token.kind = .text)
    return token
  | _ => failure

/-- The trees that were taken since these came next. -/
def tokensSince (before : List Tree) : Parser (List Tree) := do
  return (before.take (before.length - (← get).length)).map Tree.settled

/-! ## Repetition

A list yields its items and whether a separator follows the last of them. Every round but the last
takes a separator, so the number of trees bounds the rounds. -/

/-- Items up to `stop`, with a separator after each but possibly the last. -/
def listUntil {α : Type} (stop : List Tree → Bool) (separator : String) (item : Parser α) :
    Parser (List α × Bool) := do
  go (← get).length false
where
  go : Nat → Bool → Parser (List α × Bool)
    | 0, trailing => do
      if ← peek stop then return ([], trailing)
      return ([← item], false)
    | rounds + 1, trailing => do
      if ← peek stop then return ([], trailing)
      let first ← item
      if ← peek stop then return ([first], false)
      mark separator
      let (rest, trailing) ← go rounds true
      return (first :: rest, trailing)

/-- Items for as long as a separator follows, unless `stop` comes next. -/
def listWhile {α : Type} (stop : List Tree → Bool) (separator : String) (item : Parser α) :
    Parser (List α × Bool) := do
  go (← get).length false
where
  go : Nat → Bool → Parser (List α × Bool)
    | 0, trailing => do
      if ← peek stop then return ([], trailing)
      return ([← item], false)
    | rounds + 1, trailing => do
      if ← peek stop then return ([], trailing)
      let first ← item
      if ← takesMark separator then
        let (rest, trailing) ← go rounds true
        return (first :: rest, trailing)
      else
        return ([first], false)

def commaList {α : Type} (item : Parser α) : Parser (List α × Bool) :=
  listUntil List.isEmpty "," item

/-- Repeats a parser while `more` holds; a round that takes nothing is the last. -/
def manyWhile {α : Type} (more : List Tree → Bool) (item : Parser α) : Parser (List α) := do
  go (← get).length
where
  go : Nat → Parser (List α)
    | 0 => return []
    | rounds + 1 => do
      if ← peek more then
        let first ← item
        return first :: (← go rounds)
      else
        return []

def untilEnd {α : Type} (item : Parser α) : Parser (List α) := do
  let found ← manyWhile (fun trees => !trees.isEmpty) item
  require (← atEnd)
  return found

def parseAll? {α : Type} (parser : Parser α) (trees : List Tree) : Option α :=
  match parser.run trees with
  | some (value, []) => some value
  | _ => none

end Parser

/-! ## Recursion

Grammar rules call one another through this record, so that each family of rules has a module of
its own. The rules of one level call those of the level below; there are more levels than a text has
tokens, and a rule that calls another without taking a token does so only a few times in a row. -/

structure Rules where
  /-- A type; `plus` says whether it may be a list of bounds without parentheses around it. -/
  type : (plus : Bool) → Parser Ty
  /-- A bound. `capture` says whether it may list captured parameters, and `constant` whether it
  may be one that holds in constant code. -/
  bound : (capture constant : Bool) → Parser Bound
  /-- An operand with the operators in front of it and what follows it without a blank meaning:
  calls, fields, indices. `braces` says whether a struct expression may begin with a brace. -/
  operand : (braces : Bool) → Parser ExprPhrase
  /-- The operators after a first operand that bind at least as tightly as `strength`. -/
  continued : (braces : Bool) → (strength : Nat) → ExprPhrase → Parser ExprPhrase
  /-- An expression where a statement could end, behind attributes that are read already. -/
  bounded : (attributes : Phrase) → Parser ExprPhrase
  /-- One pattern without alternatives. -/
  pattern : Parser PatternPhrase
  /-- The statements of a block. -/
  statements : Parser (List Statement)
  /-- An item after its attributes. `before` are the trees from the first attribute on. -/
  item : (before : List Tree) → List Attribute → Parser ItemPhrase

namespace Rules

def expression (rules : Rules) (braces : Bool) : Parser ExprPhrase := do
  rules.continued braces 0 (← rules.operand braces)

def empty : Rules where
  type _ := failure
  bound _ _ := failure
  operand _ := failure
  continued _ _ _ := failure
  bounded _ := failure
  pattern := failure
  statements := failure
  item _ _ := failure

end Rules

end Wireform.Syntax
