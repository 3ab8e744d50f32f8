import Wireform.Syntax.Grammar.Item

namespace Wireform.Syntax

/-! Reading source texts: whole files, and the single names, paths, types and expressions that
others hand over as text. -/

open Wireform.Syntax.Parser

namespace Rules

/-- The rules whose parts are read by these. -/
def step (rules : Rules) : Rules where
  type := rules.typeRule
  bound := rules.boundRule
  operand := rules.operandRule
  continued := rules.continuedRule
  bounded := rules.boundedRule
  pattern := rules.patternRule
  statements := rules.statementsRule
  item := rules.itemRule

/-- Rules that can be applied inside one another this many times. -/
def level : Nat → Rules
  | 0 => .empty
  | depth + 1 => (level depth).step

/-- Rules for these trees. No token is read through more than a few levels. -/
def forTrees (trees : List Tree) : Rules := level (4 * Tree.sizeList trees + 16)

end Rules

def Rules.expressions (rules : Rules) : Parser (List Expr) := do
  return (← commaList (rules.expression true)).1.map ExprPhrase.expr

def parseTrees? {α : Type} (parser : Rules → Parser α) (trees : List Tree) : Option α :=
  parseAll? (parser (.forTrees trees)) trees

def parseText? {α : Type} (parser : Rules → Parser α) (text : String) : Option α := do
  parseTrees? parser (← Tree.read? text)

def parseLetters? (letters : List Char) : Option (List Item) := do
  let trees ← Tree.readFile? letters
  let items (rules : Rules) : Parser (List Item) := do
    discard rules.innerAttributes
    return (← rules.items).map ItemPhrase.item
  parseTrees? items trees

def parseFile? (text : String) : Option (List Item) := parseLetters? text.toList

theorem parseFile?_ofList {letters : List Char} :
    parseFile? (String.ofList letters) = parseLetters? letters := by
  rw [parseFile?, String.toList_ofList]

def parsePath? (text : String) : Option Path := parseText? (fun rules => rules.path false) text

def parseType? (text : String) : Option Ty := parseText? (fun rules => rules.type true) text

def parseExpression? (text : String) : Option Expr :=
  (parseText? (fun rules => rules.expression true) text).map ExprPhrase.expr

def parseName? (text : String) : Option Name := parseText? (fun _ => Parser.name) text

def parseMember? (text : String) : Option Name :=
  (parseText? (fun _ => Rules.member) text).map Rules.Member.name

def parseAttributes? (text : String) : Option (List Attribute) :=
  parseText? Rules.outerAttributes text

def parseParameters? (text : String) : Option Parameters := parseText? Rules.parameters text

def parsePredicates? (text : String) : Option Predicates := parseText? Rules.predicates text

def parseItem? (text : String) : Option Item :=
  let item (rules : Rules) : Parser Item := do
    let before ← get
    let attributes ← rules.outerAttributes
    return (← rules.item before attributes).item
  parseText? item text

end Wireform.Syntax
