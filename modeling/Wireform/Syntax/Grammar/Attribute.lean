import Wireform.Syntax.Grammar.Basic

namespace Wireform.Syntax

/-! Attributes, and the plain paths that name them. -/

open Wireform.Text

namespace Parser

def beginsPathName (trees : List Tree) : Bool :=
  Ahead.name trees || Ahead.oneWordOf ["super", "self", "Self", "crate"] trees

/-- A path without arguments. -/
def modulePath : Parser Path := do
  let global ← takesMark "::"
  let (names, trailing) ← listWhile (fun trees => !beginsPathName trees) "::" anyName
  require (!names.isEmpty && !trailing)
  return .mk global (names.map Segment.plain)

def position : Parser Position := do
  match ← get with
  | head :: _ => return head.position
  | [] => failure

end Parser

namespace Rules
variable (rules : Rules)

open Wireform.Syntax.Parser

/-- What follows an equals sign: a literal on its own, or an expression that does not start with an
attribute. -/
def attributeValue : Parser ExprPhrase := do
  match literal.run (← get) with
  | some (value, []) => set ([] : List Tree); return value
  | _ =>
    require (!(← peek fun trees => Ahead.mark "#" trees && Ahead.group .bracket (Ahead.skip trees)))
    rules.expression true

/-- What stands between the brackets of an attribute. -/
def attributeBody (inner : Bool) : Parser Attribute := do
  let position ← position
  let path ← if ← peek (Ahead.word "unsafe") then Path.ofName <$> anyName else modulePath
  if ← peek Ahead.anyGroup then
    let (delimiter, tokens) ← anyGroup
    return .ofList inner path position delimiter tokens
  else if ← peek fun trees =>
      Ahead.mark "=" trees && !Ahead.mark "==" trees && !Ahead.mark "=>" trees then
    mark "="
    return .ofValue inner path position (← rules.attributeValue)
  else
    return .ofPath inner path position

def outerAttribute : Parser Attribute := do
  mark "#"
  inside .bracket (rules.attributeBody false)

def outerAttributes : Parser (List Attribute) := manyWhile (Ahead.mark "#") rules.outerAttribute

def outerPhrase : Parser Phrase := attributesPhrase <$> rules.outerAttributes

def innerAttribute : Parser Attribute := do
  mark "#"
  mark "!"
  inside .bracket (rules.attributeBody true)

/-- The attributes at the start of something, which belong to what surrounds them. -/
def innerAttributes : Parser (List Attribute) :=
  manyWhile (fun trees => Ahead.mark "#" trees && Ahead.mark "!" (Ahead.skip trees))
    rules.innerAttribute

def innerPhrase : Parser Phrase := attributesPhrase <$> rules.innerAttributes

def block : Parser Block := inside .brace do return ⟨.empty, ← rules.statements⟩

def attributedBlock : Parser Block :=
  inside .brace do
    let attributes ← rules.innerPhrase
    return ⟨attributes, ← rules.statements⟩

end Rules

end Wireform.Syntax
