import Wireform.Syntax.Expression
import Wireform.Syntax.Phrase.Type

/-! # Expressions as phrases

How operands and operators are written. An expression is laid out differently at the start of a
line, where what is applied to a short name stays on that line, and as a receiver, where the members
of a chain break together. -/

namespace Wireform.Syntax

open Wireform.Text Phrase

/-- What the surroundings of an expression have to know about how it is written. -/
structure Manner where
  /-- Whether a brace behind the expression moves to the next line if the expression breaks. -/
  wraps : Bool := false
  /-- Whether a statement can begin with the expression as it stands. -/
  opensStatement : Bool := true
  /-- Whether the expression ends a statement and an arm of a match on its own. -/
  selfEnding : Bool := false
  /-- Whether the expression has delimiters of its own that hold its lines. -/
  blocklike : Bool := false
  /-- Whether the body of a closure can be written behind its parameters without braces. -/
  hangs : Bool := false
  /-- Whether a semicolon is written behind it even where its value is that of a block. -/
  completed : Bool := false
  /-- Whether a semicolon behind it is left out. -/
  uncompleted : Bool := false
  /-- Whether the expression is a name of no more letters than an indentation has blanks. -/
  shortName : Bool := false
  /-- Whether many such expressions fill the lines of an array. -/
  simple : Bool := false
  /-- The layout as the body of an arm, if it is a special one. -/
  arm : Option (List Doc) := none
  /-- The same if the expression has attributes. -/
  attributedArm : Option (List Doc) := none

structure ExprPhrase where
  expr : Expr
  tokens : List Tree
  /-- The layout at the start of a line or inside one. -/
  layout : (lineStart : Bool) → List Doc
  /-- The layout where a member of the expression's value follows. -/
  receiver : (lineStart : Bool) → List Doc
  printable : Bool
  manner : Manner

namespace ExprPhrase

/-- An expression that is written alike everywhere. -/
def ofPhrase (expr : Expr) (phrase : Phrase) (manner : Manner) : ExprPhrase where
  expr := expr
  tokens := phrase.tokens
  layout _ := phrase.layout
  receiver _ := [Doc.stack (-Layout.indent) phrase.layout]
  printable := phrase.printable
  manner := manner

/-- The expression inside a line. -/
def phrase (expression : ExprPhrase) : Phrase :=
  ⟨expression.tokens, expression.layout false, expression.printable⟩

/-- The expression at the start of a line. -/
def opening (expression : ExprPhrase) : Phrase :=
  ⟨expression.tokens, expression.layout true, expression.printable⟩

/-- Whether a statement that is this expression needs a semicolon before the next one. -/
def needsSemicolon (expression : ExprPhrase) : Bool :=
  match expression.expr with
  | .invocation .brace => false
  | _ => !expression.manner.selfEnding

/-- Whether the expression can begin a statement that goes on behind it. -/
def opensLonger (expression : ExprPhrase) : Bool :=
  expression.needsSemicolon && expression.manner.opensStatement

def withAttributes (attributes : Phrase) (expression : ExprPhrase) : ExprPhrase :=
  if attributes.tokens.isEmpty then expression
  else
    { expression with
      tokens := attributes.tokens ++ expression.tokens
      layout := fun lineStart => attributes.layout ++ expression.layout lineStart
      receiver := fun _ =>
        [Doc.stack (-Layout.indent) (attributes.layout ++ expression.layout false)]
      printable := attributes.printable && expression.printable
      manner := { expression.manner with
        blocklike := false, hangs := false, shortName := false
        arm := expression.manner.attributedArm } }

/-! ## Operands -/

def verbatim (tokens : List Tree) : ExprPhrase := ofPhrase .other (unprintable tokens) {}

def literal (token : Literal) : ExprPhrase :=
  ofPhrase (.literal token) (ofLiteral token)
    { simple := token.kind = .byte || token.kind = .character || token.kind = .integer }

def truth (value : Bool) : ExprPhrase :=
  ofPhrase (.truth value) (word (if value then "true" else "false")) { simple := true }

def path (path : Path) : ExprPhrase :=
  let short := path.name?.any fun name => name.spelling.utf8ByteSize ≤ Layout.indent.toNat
  ofPhrase (.path path) (path.phrase true) { shortName := short }

def projection (projection : Projection) : ExprPhrase :=
  ofPhrase .other (projection.phrase true) {}

def grouped (inner : ExprPhrase) : ExprPhrase :=
  ofPhrase (.grouped inner.expr) (inParentheses inner.phrase) { wraps := inner.manner.wraps }

/-- A tuple of no values, of one, or of several. An arm writes the first as an empty block. -/
def tuple (values : List ExprPhrase) (trailing : Bool) : ExprPhrase :=
  let manner : Manner := { blocklike := true, hangs := true }
  match values with
  | [] =>
    ofPhrase .other (inParentheses empty)
      { manner with arm := some [.text "\x7b", .gap .solidEmpty, .text "\x7d"] }
  | [only] => ofPhrase .other (inParentheses (single only.phrase)) manner
  | values =>
    ofPhrase .other (inParentheses (items Layout.indent (values.map phrase) trailing)) manner

/-- An array of values. Simple ones fill its lines, others take a line each. -/
def array (values : List ExprPhrase) (trailing : Bool) : ExprPhrase :=
  let manner : Manner := { blocklike := true, hangs := true }
  if values.isEmpty then ofPhrase .other (inBrackets empty) manner
  else if values.all (·.manner.simple) then
    let filled := joined (mark "," ++ gap .blank) (values.map phrase)
    let content := concat [gap .empty, fill 0 filled, trailingMark "," trailing,
      gap Gap.afterLast.outward]
    ofPhrase .other (stack Layout.indent (inBrackets content)) manner
  else ofPhrase .other (inBrackets (items Layout.indent (values.map phrase) trailing)) manner

def repeated (value count : ExprPhrase) : ExprPhrase :=
  ofPhrase .other (inBrackets (concat [value.phrase, spacedMark ";" "; ", count.phrase])) {}

def inferred : ExprPhrase := ofPhrase .other (word "_") {}

def invocation (delimiter : Delimiter) (written : Phrase) : ExprPhrase :=
  ofPhrase (.invocation delimiter) written {}

/-! ## Operators -/

def not (operand : ExprPhrase) : ExprPhrase :=
  ofPhrase (.not operand.expr) (mark "!" ++ operand.phrase) { wraps := operand.manner.wraps }

def unary (operator : Phrase) (operand : ExprPhrase) : ExprPhrase :=
  ofPhrase .other (operator ++ operand.phrase) { wraps := operand.manner.wraps }

/-- Two operands that can break before the operator. -/
def operation (left operator right : Phrase) : Phrase :=
  fill Layout.indent (concat [fill (-Layout.indent) left, gap .blank, operator, blank, right])

def binary (operator : BinaryOperator) (left right : ExprPhrase) : ExprPhrase :=
  ofPhrase (.binary operator left.expr right.expr)
    (operation left.phrase (mark operator.symbols) right.phrase)
    { wraps := true, opensStatement := left.opensLonger, completed := operator.isUpdate }

def assign (left right : ExprPhrase) : ExprPhrase :=
  ofPhrase (.assign left.expr right.expr)
    (concat [left.phrase, spacedMark "=" " = ", gap .solidEmpty, right.phrase])
    { wraps := true, opensStatement := left.manner.opensStatement, completed := true }

def cast (operand : ExprPhrase) (target : Ty) : ExprPhrase :=
  ofPhrase .other (operation operand.phrase (word "as") target.phrase)
    { wraps := true, opensStatement := operand.opensLonger }

def range (first : Option ExprPhrase) (dots : String) (last : Option ExprPhrase) : ExprPhrase :=
  ofPhrase .range
    (concat [ofOption (first.map phrase), mark dots, ofOption (last.map phrase)])
    { wraps := last.any (·.manner.wraps), opensStatement := first.all opensLonger }

/-! ## What is applied to an operand -/

/-- Arguments in parentheses. One that holds its own lines needs no indentation. -/
def arguments (values : List ExprPhrase) (trailing : Bool) : Phrase :=
  let separate := items Layout.indent (values.map phrase) trailing
  inParentheses <| match values with
    | [only] => if only.manner.blocklike then only.phrase ++ trailingMark "," trailing else separate
    | _ => separate

def call (function : ExprPhrase) (arguments : Phrase) : ExprPhrase where
  expr := .other
  tokens := function.tokens ++ arguments.tokens
  layout lineStart := function.layout lineStart ++ arguments.layout
  receiver _ := function.receiver false ++ arguments.layout
  printable := function.printable && arguments.printable
  manner :=
    { wraps := function.manner.wraps, opensStatement := function.opensLonger, hangs := true }

def index (operand position : ExprPhrase) : ExprPhrase :=
  let position := inBrackets position.phrase
  { expr := .other
    tokens := operand.tokens ++ position.tokens
    layout := fun lineStart => operand.layout lineStart ++ position.layout
    receiver := fun lineStart => operand.receiver lineStart ++ position.layout
    printable := operand.printable && position.printable
    manner := { wraps := true, opensStatement := operand.opensLonger } }

/-- A value that is passed on only if it is there. -/
def question (operand : ExprPhrase) : ExprPhrase where
  expr := .other
  tokens := operand.tokens ++ Tree.ofOperator "?"
  layout lineStart := operand.layout lineStart ++ [.text "?"]
  receiver lineStart := operand.receiver lineStart ++ [.text "?"]
  printable := operand.printable
  manner :=
    { wraps := operand.manner.wraps, opensStatement := operand.manner.opensStatement }

/-- The receiver up to the point of a member. Nothing moves away from a short name at the start of
its line. -/
def beforeMember (operand : ExprPhrase) (lineStart : Bool) : List Doc :=
  operand.receiver lineStart ++
    if lineStart && operand.manner.shortName then [] else [.gap .empty]

/-- A member that is a field or a suspension point. -/
def member (operand : ExprPhrase) (name : Phrase) : ExprPhrase :=
  let name := mark "." ++ name
  let chain (lineStart : Bool) := operand.beforeMember lineStart ++ name.layout
  { expr := .other
    tokens := operand.tokens ++ name.tokens
    layout := fun lineStart => [Doc.stack Layout.indent (chain lineStart)]
    receiver := chain
    printable := operand.printable && name.printable
    manner := { wraps := true, opensStatement := operand.manner.opensStatement } }

def methodCall (operand : ExprPhrase) (name arguments : Phrase) : ExprPhrase :=
  let name := mark "." ++ name
  let chain (lineStart : Bool) (shift : Int) :=
    operand.beforeMember lineStart ++ name.layout ++ [Doc.stack shift arguments.layout]
  let shift (lineStart : Bool) : Int :=
    if lineStart && operand.manner.shortName then -Layout.indent else 0
  { expr := .other
    tokens := operand.tokens ++ name.tokens ++ arguments.tokens
    layout := fun lineStart => [Doc.stack Layout.indent (chain lineStart (shift lineStart))]
    receiver := fun lineStart => chain lineStart 0
    printable := operand.printable && name.printable && arguments.printable
    manner := { wraps := true, opensStatement := operand.manner.opensStatement } }

/-! ## Words -/

/-- A word with a value that it hands out, such as that of a function. -/
def jump (keyword : Phrase) (value : Option ExprPhrase) : ExprPhrase :=
  ofPhrase .other (keyword ++ ofOption (value.map fun value => blank ++ value.phrase))
    { wraps := value.any (·.manner.wraps), completed := true }

/-- A condition that holds if a value has a form. -/
def letCondition (pattern : Phrase) (value : ExprPhrase) : ExprPhrase :=
  let content := concat [spacedWord "let", fill 0 pattern, spacedMark "=" " = ",
    gap .solidEmpty, fill 0 value.phrase]
  ofPhrase .other (fill 0 content) { wraps := value.manner.wraps }

/-! ## Structs -/

/-- A field of a struct expression; the value goes without saying where a variable has the field's
name. -/
def fieldValue (attributes name : Phrase) (value : Option ExprPhrase) : Phrase :=
  let value := value.map fun value => spacedMark ":" ": " ++ fill 0 value.phrase
  concat [attributes, name, ofOption value]

/-- What stands for the fields of a struct expression that are not named. -/
inductive Rest where
  | none
  | unnamed
  | value (expression : ExprPhrase)

/-- The widest struct expression that is kept on one line. -/
def structWidth : Nat := 34

def struct (path : Phrase) (fields : List Phrase) (trailing : Bool) (rest : Rest) : ExprPhrase :=
  let separate := concat (fields.map fun field => concat [field, mark ",", gap .blank])
  let content := match rest with
    | .none => commaSeparated .blankAfterLast trailing fields
    | .unnamed => commaSeparated .blankAfterLast trailing fields ++ unseen (Tree.ofOperator "..")
    | .value value => concat [separate, mark "..", value.phrase, gap .blank]
  let opened := Doc.fill (-Layout.indent) path.layout :: .text " \x7b" ::
    Doc.closing (.gap .optionalBlank :: content.layout)
  ofPhrase .other
    ⟨path.tokens ++ [.group .brace content.tokens .start],
      [Doc.narrow structWidth Layout.indent opened, .text "\x7d"],
      path.printable && content.printable⟩
    { blocklike := true, hangs := true }

end ExprPhrase

end Wireform.Syntax
