import Wireform.Syntax.Phrase.Expression

/-! # Blocks as phrases

How statements, blocks and the expressions with blocks of their own are written. A small block holds
one expression and can stay on its line; any other block has a line for each statement. -/

namespace Wireform.Syntax

open Wireform.Text Phrase

/-! ## Statements -/

inductive Statement where
  /-- An expression without a semicolon. -/
  | value (expression : ExprPhrase)
  /-- An invocation that stands for statements, with its attributes. -/
  | invocation (written : Phrase) (delimiter : Delimiter) (ended : Bool)
  /-- A statement with its line end. -/
  | other (written : Phrase)

namespace Statement

/-- A semicolon alone, which is not written. -/
def nothing : Statement := .other (unseen (Tree.ofOperator ";"))

/-- An expression with a semicolon behind it. -/
def ended (expression : ExprPhrase) : Statement :=
  let semicolon :=
    if expression.manner.uncompleted then unseen (Tree.ofOperator ";") else mark ";"
  .other (fill 0 (expression.opening ++ semicolon) ++ lineEnd)

/-- A statement that declares variables. The alternative is the block that is left early if the
pattern does not match. -/
def declaration (attributes pattern : Phrase) (value : Option ExprPhrase)
    (alternative : Option Phrase) : Statement :=
  let value := value.map fun value =>
    concat [spacedMark "=" " = ", gap .solidEmpty, value.phrase]
  let assigned := concat [spacedWord "let", pattern, ofOption value]
  let content := match alternative with
    | none => fill 0 (assigned ++ mark ";")
    | some block =>
      concat [fill 0 (concat [assigned, gap .blank, spacedWord "else"]), gap .solidEmpty,
        stack Layout.indent (block ++ mark ";")]
  .other (concat [attributes, content, lineEnd])

def phrase (last : Bool) : Statement → Phrase
  | .value expression =>
    let semicolon := if expression.manner.completed then shown [.text ";"] else empty
    fill 0 (expression.opening ++ semicolon) ++ lineEnd
  | .invocation written delimiter ended =>
    let semicolon :=
      if ended then mark ";"
      else if !last && delimiter ≠ .brace then shown [.text ";"] else empty
    concat [written, semicolon, lineEnd]
  | .other written => written

def phraseOfList : List Statement → Phrase
  | [] => empty
  | [last] => last.phrase true
  | head :: tail => head.phrase false ++ phraseOfList tail

end Statement

/-! ## Blocks -/

structure Block where
  attributes : Phrase
  statements : List Statement

namespace Block

/-- A block behind a condition or a word, whose box has to be indented. -/
def small (block : Block) : Phrase :=
  if block.attributes.tokens.isEmpty && block.statements.isEmpty then inBraces empty
  else
    let body := match block.statements with
      | [.value expression] => fill 0 expression.opening ++ gap .blank
      | statements => Statement.phraseOfList statements
    inBraces (closing (concat [gap .blank, block.attributes, body]))

/-- What stands between the braces of a block with a line for each statement. -/
def lines (block : Block) : Phrase :=
  closing
    (concat [gap .optionalLineEnd, block.attributes, Statement.phraseOfList block.statements])

/-- A block with a line for each statement. -/
def tall (block : Block) : Phrase := inBraces (stack Layout.indent block.lines)

/-- The same behind a condition, from which it never breaks. -/
def tallBehindCondition (block : Block) : Phrase :=
  inBraces (gap .solidEmpty ++ stack Layout.indent block.lines)

end Block

namespace ExprPhrase

/-! ## Arms -/

/-- The layout of an expression as the body of an arm. One that takes lines of its own goes between
braces, or between parentheses if no statement can begin with it. -/
def armLayout (expression : ExprPhrase) : List Doc :=
  let manner := expression.manner
  manner.arm.getD <|
    let opens := manner.opensStatement
    let before := { Gap.empty with mark := some (if opens then '{' else '(') }
    let after := { Gap.empty.outward with
      mark := if opens && manner.completed then some ';' else none
      opening := if opens then "\x7d" else "),"
      filler := if manner.selfEnding then "" else "," }
    [.gap .solidEmpty,
      Doc.stack Layout.indent ([.gap before] ++ expression.layout true ++ [.gap after])]

/-- The body of a closure without a result type. -/
def closureBody (expression : ExprPhrase) : Phrase :=
  let manner := expression.manner
  if manner.hangs then expression.phrase
  else
    let opens := manner.opensStatement
    let before := { Gap.empty with mark := some (if opens then '{' else '(') }
    let after := { Gap.empty.outward with
      mark := if opens && manner.completed then some ';' else none
      opening := if opens then "\x7d" else ")" }
    stack Layout.indent (concat [gap before, expression.phrase, gap after])

def arm (attributes pattern : Phrase) (guard : Option ExprPhrase) (body : ExprPhrase)
    (comma : Bool) : Phrase :=
  let guard := guard.map fun guard => concat [blank, spacedWord "if", guard.phrase]
  let body : Phrase := ⟨body.tokens, body.armLayout, body.printable⟩
  concat [attributes,
    fill 0 (concat [pattern, ofOption guard, spacedMark "=>" " => ", body,
      trailingMark "," comma]),
    lineEnd]

/-! ## Blocks -/

def label : Option Name → Phrase
  | some name => ofLifetime name ++ spacedMark ":" ": "
  | none => empty

/-- A block. An arm leaves out the braces around a single expression. -/
def block (name : Option Name) (content : Block) : ExprPhrase :=
  let own := label name ++ content.tallBehindCondition
  let arm := match name, content.statements with
    | none, [.value expression] =>
      if content.attributes.tokens.isEmpty then expression.armLayout else own.layout
    | _, _ => own.layout
  ofPhrase .other (label name ++ stack Layout.indent content.small)
    { selfEnding := true, blocklike := true, hangs := true
      arm := some arm, attributedArm := some own.layout }

/-- A block behind words that say how it is evaluated. -/
def wordBlock (words : Phrase) (content : Block) (selfEnding : Bool) : ExprPhrase :=
  ofPhrase .other (words ++ stack Layout.indent content.small)
    { selfEnding := selfEnding, blocklike := true, hangs := true }

/-- A condition or a subject, up to the brace behind it. -/
def condition (expression : ExprPhrase) : Phrase :=
  stack 0 (expression.phrase ++ if expression.manner.wraps then gap .blank else blank)

/-! ## Choices and loops -/

/-- What happens where a condition does not hold. -/
structure Alternative where
  written : Phrase
  /-- Whether the choice ends without a block for all that is left. -/
  incomplete : Bool

def Alternative.ofBlock (content : Block) : Alternative :=
  ⟨concat [blank, spacedWord "else", content.small], false⟩

def Alternative.ofChoice (subject : ExprPhrase) (consequence : Block)
    (alternative : Option Alternative) : Alternative :=
  ⟨concat [blank, spacedWord "else", spacedWord "if",
      stack (-Layout.indent) subject.condition, consequence.small,
      ofOption (alternative.map Alternative.written)],
    alternative.all Alternative.incomplete⟩

/-- A choice. A block without an alternative has lines of its own. -/
def choice (subject : ExprPhrase) (consequence : Block) (alternative : Option Alternative) :
    ExprPhrase :=
  let blocks := match alternative with
    | some alternative => consequence.small ++ alternative.written
    | none =>
      if consequence.statements.isEmpty then inBraces empty
      else inBraces (closing (lineEnd ++ Statement.phraseOfList consequence.statements))
  let content := concat [spacedWord "if", stack (-Layout.indent) subject.condition, blocks]
  ofPhrase .other (stack Layout.indent content)
    { selfEnding := true, uncompleted := alternative.all Alternative.incomplete }

def loop (name : Option Name) (body : Block) : ExprPhrase :=
  ofPhrase .other (concat [label name, spacedWord "loop", body.tall]) { selfEnding := true }

def whileLoop (name : Option Name) (subject : ExprPhrase) (body : Block) : ExprPhrase :=
  ofPhrase .other
    (concat [label name, spacedWord "while", subject.condition, body.tallBehindCondition])
    { selfEnding := true, uncompleted := true }

def forLoop (name : Option Name) (pattern : Phrase) (subject : ExprPhrase) (body : Block) :
    ExprPhrase :=
  let content := concat [label name, spacedWord "for", pattern, blank, spacedWord "in",
    gap .solidEmpty, subject.condition, body.tallBehindCondition]
  ofPhrase .other (fill 0 content) { selfEnding := true, uncompleted := true }

/-- A match with its arms, each with its line end. -/
def matching (subject : ExprPhrase) (attributes : Phrase) (arms : List Phrase) : ExprPhrase :=
  let lines := closing (concat (gap .optionalLineEnd :: attributes :: arms))
  let content := concat [spacedWord "match", subject.condition,
    inBraces (gap .solidEmpty ++ stack Layout.indent lines)]
  ofPhrase .other (fill 0 content) { selfEnding := true, hangs := true }

/-! ## Closures -/

/-- A closure. The words say how it captures; a result type asks for a block as the body. -/
def closure (words : Phrase) (inputs : List Phrase) (trailing : Bool) (output : Option Ty)
    (body : ExprPhrase) : ExprPhrase :=
  let start := if inputs.isEmpty then empty else gap .empty
  let listed := concat [mark "|", start, joined (mark "," ++ gap .blank) inputs,
    trailingMark "," trailing]
  let content := match output with
    | none =>
      concat [words, stack Layout.indent (concat [listed, mark "|", gap Gap.blank.outward]),
        gap .solidEmpty, body.closureBody]
    | some ty =>
      let last := if inputs.isEmpty then empty else gap Gap.afterLast.outward
      concat [words, stack Layout.indent (concat [listed, last, mark "|"]),
        spacedMark "->" " -> ", ty.phrase, blank, gap .solidEmpty, body.phrase]
  ofPhrase .other (fill 0 content) { blocklike := true, hangs := true }

end ExprPhrase

end Wireform.Syntax
