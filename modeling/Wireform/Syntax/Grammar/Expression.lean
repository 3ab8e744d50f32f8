import Wireform.Syntax.Grammar.Pattern

namespace Wireform.Syntax

/-! Expressions. -/

/-! How tightly operators bind, weakest first. -/

namespace Strength

def weakest : Nat := 0
def assign : Nat := 1
def range : Nat := 2
def or : Nat := 3
def and : Nat := 4
def compare : Nat := 6
def bitOr : Nat := 7
def bitXor : Nat := 8
def bitAnd : Nat := 9
def shift : Nat := 10
def sum : Nat := 11
def product : Nat := 12
def cast : Nat := 13

end Strength

namespace BinaryOperator

def strength : BinaryOperator → Nat
  | multiply | divide | remainder => Strength.product
  | add | subtract => Strength.sum
  | shiftLeft | shiftRight => Strength.shift
  | bitAnd => Strength.bitAnd
  | bitXor => Strength.bitXor
  | bitOr => Strength.bitOr
  | equal | notEqual | less | lessEqual | greater | greaterEqual => Strength.compare
  | and => Strength.and
  | or => Strength.or
  | update _ => Strength.assign

/-- All operators, a longer one before those that it begins with. -/
def all : List BinaryOperator :=
  ["+=", "-=", "*=", "/=", "%=", "^=", "&=", "|=", "<<=", ">>="].map update ++
    [and, or, shiftLeft, shiftRight, equal, lessEqual, notEqual, greaterEqual, add, subtract,
      multiply, divide, remainder, bitXor, bitAnd, bitOr, less, greater]

def ahead? (trees : List Tree) : Option BinaryOperator :=
  all.find? fun operator => Ahead.mark operator.symbols trees

end BinaryOperator

namespace ExprPhrase

def isRange (expression : ExprPhrase) : Bool :=
  match expression.expr with
  | .range => true
  | _ => false

def isComparison (expression : ExprPhrase) : Bool :=
  match expression.expr with
  | .binary operator _ _ => operator.strength = Strength.compare
  | _ => false

end ExprPhrase

namespace Rules

open Wireform.Syntax.Parser

variable (rules : Rules)

/-! ## Operators between operands -/

def beginsAssignment (trees : List Tree) : Bool := Ahead.mark "=" trees && !Ahead.mark "=>" trees

/-- How tightly the operator at the front binds. -/
def strengthAhead (trees : List Tree) : Nat :=
  match BinaryOperator.ahead? trees with
  | some operator => operator.strength
  | none =>
    if beginsAssignment trees then Strength.assign
    else if Ahead.mark ".." trees then Strength.range
    else if Ahead.word "as" trees then Strength.cast
    else Strength.weakest

/-- The right operand of an operator: an operand, with all that binds more tightly after it. -/
def rightOperand (braces : Bool) (strength : Nat) : Parser ExprPhrase := do
  let first ← rules.operand braces
  go (← get).length first
where
  go : Nat → ExprPhrase → Parser ExprPhrase
    | 0, right => return right
    | rounds + 1, right => do
      let before ← get
      let next := strengthAhead before
      if next > strength || (next = strength && strength = Strength.assign) then
        let longer ← rules.continued braces next right
        if (← get).length = before.length then return longer else go rounds longer
      else
        return right

/-- Whether a range without an end stops here. -/
def endsOpenRange (braces : Bool) (trees : List Tree) : Bool :=
  trees.isEmpty ||
    [",", ";", "?", "=>", "=", "+", "/", "%", "^", ">", "<=", "!=", "-=", "*=", "&=", "|=",
      "<<="].any (Ahead.mark · trees) ||
    (Ahead.mark "." trees && !Ahead.mark ".." trees) ||
    (!braces && Ahead.group .brace trees) || Ahead.word "as" trees

/-- The range that starts with `first` and goes on with its dots. -/
def rangeFrom (braces : Bool) (first : Option ExprPhrase) : Parser ExprPhrase := do
  let closed ← takesMark "..="
  if !closed then
    require (!(← peek (Ahead.mark "...")))
    mark ".."
  if !closed && (← peek (endsOpenRange braces)) then return .range first ".." none
  let last ← rules.rightOperand braces Strength.range
  return .range first (rangeDots closed) (some last)

/-- Whether something comes next that would apply to the result of a cast. -/
def appliesToCast (trees : List Tree) : Bool :=
  (Ahead.mark "." trees && !Ahead.mark ".." trees) || Ahead.mark "?" trees ||
    Ahead.group .bracket trees || Ahead.group .parenthesis trees

def continuedRule (braces : Bool) (strength : Nat) (first : ExprPhrase) : Parser ExprPhrase := do
  go (← get).length first
where
  go : Nat → ExprPhrase → Parser ExprPhrase
    | 0, left => return left
    | rounds + 1, left => do
      if left.isRange then return left
      let trees ← get
      match BinaryOperator.ahead? trees with
      | some operator =>
        if operator.strength < strength then return left
        require (!(operator.strength = Strength.compare && left.isComparison))
        mark operator.symbols
        let right ← rules.rightOperand braces operator.strength
        go rounds (.binary operator left right)
      | none =>
        if Strength.assign ≥ strength && beginsAssignment trees then
          mark "="
          let right ← rules.rightOperand braces Strength.assign
          go rounds (.assign left right)
        else if Strength.range ≥ strength && Ahead.mark ".." trees then
          go rounds (← rules.rangeFrom braces (some left))
        else if Strength.cast ≥ strength && Ahead.word "as" trees then
          word "as"
          let ty ← rules.type false
          require (!(← peek appliesToCast))
          go rounds (.cast left ty)
        else
          return left

/-! ## Blocks and choices -/

/-- A condition or a subject, which ends where a brace opens. -/
def subject : Parser ExprPhrase := rules.expression false

/-- What follows the block of a choice, if it goes on. -/
def alternative : (rounds : Nat) → Parser (Option ExprPhrase.Alternative)
  | 0 => failure
  | rounds + 1 => do
    if ← takesWord "else" then
      if ← takesWord "if" then
        let subject ← rules.subject
        let consequence ← rules.block
        return some (.ofChoice subject consequence (← alternative rounds))
      else
        return some (.ofBlock (← rules.block))
    else
      return none

def choice : Parser ExprPhrase := do
  word "if"
  let subject ← rules.subject
  let consequence ← rules.block
  return .choice subject consequence (← rules.alternative ((← get).length + 1))

def whileLoop (label : Option Name) : Parser ExprPhrase := do
  word "while"
  let subject ← rules.subject
  return .whileLoop label subject (← rules.attributedBlock)

def forLoop (label : Option Name) : Parser ExprPhrase := do
  word "for"
  let pattern ← rules.alternatives
  word "in"
  let subject ← rules.subject
  return .forLoop label pattern.phrase subject (← rules.attributedBlock)

def loop (label : Option Name) : Parser ExprPhrase := do
  word "loop"
  return .loop label (← rules.attributedBlock)

def labelled : Parser ExprPhrase := do
  let label ← lifetime
  mark ":"
  if ← peek (Ahead.word "while") then rules.whileLoop label
  else if ← peek (Ahead.word "for") then rules.forLoop label
  else if ← peek (Ahead.word "loop") then rules.loop label
  else return .block label (← rules.attributedBlock)

/-! ## What follows an operand -/

def arguments : Parser Phrase := do
  let (values, trailing) ← inside .parenthesis (commaList (rules.expression true))
  return ExprPhrase.arguments values trailing

def indexPhrase (index : Nat) : Phrase := .ofLiteral ⟨.integer, toString index⟩

/-- The parts of a float as indices of nested tuples, and whether a further member has to follow
its final point. -/
def tupleIndices? (token : Literal) : Option (List Nat × Bool) :=
  let parts := token.spelling.splitOn "."
  let trailing := parts.getLast? = some ""
  let index? (part : String) : Option Nat :=
    match literalLength part.toList with
    | some (.integer, length) =>
      if length = part.length then
        (Literal.number? ⟨.integer, part⟩).filter (· < indexBound)
      else none
    | _ => none
  ((if trailing then parts.dropLast else parts).mapM index?).map (·, trailing)

/-- The indices of nested tuples that a float stands for after an operand's point, and whether a
member has to follow. -/
def tupleMembers (operand : ExprPhrase) : Parser (ExprPhrase × Bool) := do
  match ← get with
  | .literal token _ :: rest =>
    if token.kind = .float then
      match tupleIndices? token with
      | some (indices, again) =>
        set rest
        return (indices.foldl (fun operand index => operand.member (indexPhrase index)) operand,
          again)
      | none => failure
    else return (operand, true)
  | _ => return (operand, true)

def memberAccess (operand : ExprPhrase) : Parser ExprPhrase := do
  let (operand, again) ← tupleMembers operand
  if !again then return operand
  if ← takesWord "await" then return operand.member (.word "await")
  let member ← member
  let turbofish ← peek fun trees => member.named && Ahead.mark "::" trees
  if turbofish then
    require (← peek (opensArguments true))
    let generic ← rules.angledArguments
    return operand.methodCall (member.phrase ++ generic.phrase true) (← rules.arguments)
  else if member.named && (← peek (Ahead.group .parenthesis)) then
    return operand.methodCall member.phrase (← rules.arguments)
  else
    return operand.member member.phrase

/-- Calls, members, indices and question marks after an operand. -/
def applied (first : ExprPhrase) : Parser ExprPhrase := do
  go (← get).length first
where
  go : Nat → ExprPhrase → Parser ExprPhrase
    | 0, operand => return operand
    | rounds + 1, operand => do
      let trees ← get
      if Ahead.group .parenthesis trees then
        go rounds (operand.call (← rules.arguments))
      else if Ahead.mark "." trees && !Ahead.mark ".." trees && !operand.isRange then
        mark "."
        go rounds (← rules.memberAccess operand)
      else if Ahead.group .bracket trees then
        go rounds (operand.index (← inside .bracket (rules.expression true)))
      else if Ahead.mark "?" trees && !operand.isRange then
        mark "?"
        go rounds operand.question
      else
        return operand

/-! ## Operands -/

def asyncBlock : Parser ExprPhrase := do
  word "async"
  let moves ← takesWord "move"
  return .wordBlock (Written.words [(true, "async"), (moves, "move")]) (← rules.block) false

def tryBlock : Parser ExprPhrase := do
  word "try"
  return .wordBlock (.spacedWord "try") (← rules.block) true

def unsafeBlock : Parser ExprPhrase := do
  word "unsafe"
  return .wordBlock (.spacedWord "unsafe") (← rules.attributedBlock) true

def closureInput : Parser Phrase := do
  let attributes ← rules.outerPhrase
  let pattern ← rules.pattern
  let pattern ← if ← takesMark ":" then
      pure (pattern.typed (← rules.type true))
    else pure pattern
  return attributes ++ pattern.phrase

def closure (braces : Bool) : Parser ExprPhrase := do
  let binder ← rules.optionalBinder
  let modifiers ← ["const", "static", "async", "move"].mapM fun modifier => do
    return (← takesWord modifier, modifier)
  let words := optionalBinderPhrase binder ++ Written.words modifiers
  mark "|"
  let (inputs, trailing) ← listUntil (Ahead.mark "|") "," rules.closureInput
  mark "|"
  if ← takesMark "->" then
    let ty ← rules.type true
    return .closure words inputs trailing (some ty) (.block none (← rules.block))
  else
    return .closure words inputs trailing none (← rules.expression braces)

def beginsClosure (trees : List Tree) : Bool :=
  let after := Ahead.skip trees
  Ahead.mark "|" trees || Ahead.word "move" trees || Ahead.word "static" trees ||
    (Ahead.word "for" trees && opensParameters after) ||
    (Ahead.word "const" trees && !Ahead.group .brace after) ||
    (Ahead.word "async" trees && (Ahead.mark "|" after || Ahead.word "move" after))

def beginsAsyncBlock (trees : List Tree) : Bool :=
  let after := Ahead.skip trees
  Ahead.word "async" trees &&
    (Ahead.group .brace after ||
      (Ahead.word "move" after && Ahead.group .brace (Ahead.skip after)))

/-- An expression that only a compiler can provide, with any arguments. -/
def provided : Parser ExprPhrase := do
  let before ← get
  word "builtin"
  mark "#"
  discard name
  inside .parenthesis (discard everything)
  return .verbatim (← tokensSince before)

def fieldValue : Parser Phrase := do
  let attributes ← rules.outerPhrase
  let member ← member
  let given ← if member.named then takesMark ":" else do mark ":"; pure true
  let value ← if given then some <$> rules.expression true else pure none
  return ExprPhrase.fieldValue attributes member.phrase value

/-- The fields of a struct expression, whether a comma follows the last of them, and what stands for
all others. -/
def structFields : Parser (List Phrase × Bool × ExprPhrase.Rest) :=
  inside .brace do
    go (← get).length false
where
  go : Nat → Bool → Parser (List Phrase × Bool × ExprPhrase.Rest)
    | 0, trailing => do
      require (← atEnd)
      return ([], trailing, .none)
    | rounds + 1, trailing => do
      if ← atEnd then return ([], trailing, .none)
      if ← takesMark ".." then
        if ← atEnd then return ([], trailing, .unnamed)
        let value ← rules.expression true
        require (← atEnd)
        return ([], trailing, .value value)
      else
        let field ← rules.fieldValue
        if ← atEnd then return ([field], false, .none)
        mark ","
        let (fields, trailing, rest) ← go rounds true
        return (field :: fields, trailing, rest)

def pathExpression (braces : Bool) : Parser ExprPhrase := do
  let (path, plain?) ← rules.expressionPath
  let invoked ← peek fun trees => Ahead.mark "!" trees && !Ahead.mark "!=" trees
  match plain?, invoked with
  | some plain, true =>
    mark "!"
    let (delimiter, content) ← anyGroup
    return .invocation delimiter (invocationPhrase plain none delimiter content)
  | _, _ =>
    if braces && (← peek (Ahead.group .brace)) then
      let (fields, trailing, rest) ← rules.structFields
      return .struct path.phrase fields trailing rest
    else
      return path

def grouping : Parser ExprPhrase := do
  let (values, trailing) ← inside .parenthesis (commaList (rules.expression true))
  match values, trailing with
  | [value], false => return .grouped value
  | values, trailing => return .tuple values trailing

def arrayExpression : Parser ExprPhrase :=
  inside .bracket do
    if ← atEnd then return .array [] false
    let first ← rules.expression true
    if ← takesMark ";" then
      return .repeated first (← rules.expression true)
    else if ← takesMark "," then
      let (rest, trailing) ← commaList (rules.expression true)
      return .array (first :: rest) (trailing || rest.isEmpty)
    else
      return .array [first] false

def beginsExpression (trees : List Tree) : Bool :=
  let marked (operator : String) (except : List String) : Bool :=
    Ahead.mark operator trees && !except.any (Ahead.mark · trees)
  (Ahead.anyWord trees && !Ahead.word "as" trees) || Ahead.anyGroup trees ||
    Ahead.literal trees || marked "!" ["!="] ||
    marked "-" ["-=", "->"] || marked "*" ["*="] || marked "|" ["|="] || marked "&" ["&="] ||
    marked ".." [] || marked "<" ["<=", "<<="] || marked "::" [] || Ahead.lifetime trees ||
    marked "#" []

def optionalExpression : Parser (Option ExprPhrase) := do
  if ← peek beginsExpression then some <$> rules.expression true else return none

def jumpWord (keyword : String) (label : Option Name) : Phrase :=
  .word keyword ++ .ofOption (label.map fun label => .blank ++ .ofLifetime label)

def breakExpression (braces : Bool) : Parser ExprPhrase := do
  word "break"
  let label ← optionalLifetime
  if label.isSome then require (!(← peek (Ahead.mark ":")))
  let valued ← peek fun trees => braces || !Ahead.group .brace trees
  let value ← if valued then rules.optionalExpression else pure none
  return .jump (jumpWord "break" label) value

def continueExpression : Parser ExprPhrase := do
  word "continue"
  return .jump (jumpWord "continue" (← optionalLifetime)) none

def valueJump (keyword : String) : Parser ExprPhrase := do
  word keyword
  return .jump (jumpWord keyword none) (← rules.optionalExpression)

/-- A jump to another function, which is taken as it is. -/
def becomeExpression : Parser ExprPhrase := do
  let before ← get
  word "become"
  discard (rules.expression true)
  return .verbatim (← tokensSince before)

def letExpression (braces : Bool) : Parser ExprPhrase := do
  word "let"
  let pattern ← rules.alternatives
  mark "="
  let left ← rules.operand braces
  return .letCondition pattern.phrase (← rules.continued braces Strength.compare left)

/-- One arm of a match. An arm whose body could end a statement needs no comma after it. -/
def arm : Parser Phrase := do
  let attributes ← rules.outerPhrase
  let pattern ← rules.alternatives
  let guard ← if ← takesWord "if" then some <$> rules.expression true else pure none
  mark "=>"
  let body ← rules.bounded .empty
  let comma ← takesMark ","
  if !body.manner.selfEnding && !comma then require (← atEnd)
  return ExprPhrase.arm attributes pattern.phrase guard body comma

def matchExpression : Parser ExprPhrase := do
  word "match"
  let subject ← rules.subject
  inside .brace do
    let attributes ← rules.innerPhrase
    return .matching subject attributes (← untilEnd rules.arm)

def beginsConstantBlock (trees : List Tree) : Bool :=
  Ahead.word "const" trees && Ahead.group .brace (Ahead.skip trees)

def beginsTryBlock (trees : List Tree) : Bool :=
  Ahead.word "try" trees && Ahead.group .brace (Ahead.skip trees)

/-- An operand without operators in front of it and without anything applied to it. -/
def atom (braces : Bool) : Parser ExprPhrase := do
  let trees ← get
  let after := Ahead.skip trees
  if Ahead.literal trees then literal
  else if beginsAsyncBlock trees then rules.asyncBlock
  else if beginsTryBlock trees then rules.tryBlock
  else if beginsClosure trees then rules.closure braces
  else if beginsProvided trees then provided
  else if beginsPath trees ||
      (Ahead.word "try" trees && (Ahead.mark "!" after || Ahead.mark "::" after)) then
    rules.pathExpression braces
  else if Ahead.group .parenthesis trees then rules.grouping
  else if Ahead.word "break" trees then rules.breakExpression braces
  else if Ahead.word "continue" trees then continueExpression
  else if Ahead.word "return" trees then rules.valueJump "return"
  else if Ahead.word "become" trees then rules.becomeExpression
  else if Ahead.group .bracket trees then rules.arrayExpression
  else if Ahead.word "let" trees then rules.letExpression braces
  else if Ahead.word "if" trees then rules.choice
  else if Ahead.word "while" trees then rules.whileLoop none
  else if Ahead.word "for" trees then rules.forLoop none
  else if Ahead.word "loop" trees then rules.loop none
  else if Ahead.word "match" trees then rules.matchExpression
  else if Ahead.word "yield" trees then rules.valueJump "yield"
  else if Ahead.word "unsafe" trees then rules.unsafeBlock
  else if Ahead.word "const" trees then rules.constantBlock
  else if Ahead.group .brace trees then return .block none (← rules.attributedBlock)
  else if Ahead.mark ".." trees then rules.rangeFrom braces none
  else if ← takesWord "_" then return .inferred
  else if Ahead.lifetime trees then rules.labelled
  else failure

def addressExpression (braces : Bool) : Parser ExprPhrase := do
  mark "&"
  let raw ← peek fun trees =>
    Ahead.word "raw" trees && Ahead.oneWordOf ["mut", "const"] (Ahead.skip trees)
  if raw then
    word "raw"
    let mutable ← takesWord "mut"
    if !mutable then word "const"
    let words := Written.words [(true, "raw"), (true, if mutable then "mut" else "const")]
    return .unary (.mark "&" ++ words) (← rules.operand braces)
  else
    let mutable ← takesWord "mut"
    return .unary (.mark "&" ++ Written.words [(mutable, "mut")]) (← rules.operand braces)

/-- An operand: operators in front bind more tightly than any between operands. Attributes belong
to what follows them, which must not be a range without a first end. -/
def operandRule (braces : Bool) : Parser ExprPhrase := do
  let attributes ← rules.outerPhrase
  let found ← if ← peek (Ahead.mark "&") then rules.addressExpression braces
    else if ← takesMark "*" then pure (.unary (.mark "*") (← rules.operand braces))
    else if ← takesMark "!" then pure (.not (← rules.operand braces))
    else if ← takesMark "-" then pure (.unary (.mark "-") (← rules.operand braces))
    else rules.applied (← rules.atom braces)
  require (!(found.isRange && !attributes.tokens.isEmpty))
  return found.withAttributes attributes

/-- The operand that an expression starts with where a statement could end behind it. -/
def boundedOperand : Parser ExprPhrase := do
  let trees ← get
  if Ahead.word "if" trees then rules.choice
  else if Ahead.word "while" trees then rules.whileLoop none
  else if Ahead.word "for" trees && !opensParameters (Ahead.skip trees) then rules.forLoop none
  else if Ahead.word "loop" trees then rules.loop none
  else if Ahead.word "match" trees then rules.matchExpression
  else if beginsTryBlock trees then rules.tryBlock
  else if Ahead.word "unsafe" trees then rules.unsafeBlock
  else if beginsConstantBlock trees then rules.constantBlock
  else if Ahead.group .brace trees then return .block none (← rules.attributedBlock)
  else if Ahead.lifetime trees then rules.labelled
  else rules.operand true

def boundedRule (attributes : Phrase) : Parser ExprPhrase := do
  let attributes := attributes ++ (← rules.outerPhrase)
  let first ← rules.boundedOperand
  let trees ← get
  if !first.manner.selfEnding then
    rules.continued true Strength.weakest (first.withAttributes attributes)
  else if (Ahead.mark "." trees && !Ahead.mark ".." trees) || Ahead.mark "?" trees then
    let first ← rules.applied first
    rules.continued true Strength.weakest (first.withAttributes attributes)
  else
    return first.withAttributes attributes

end Rules

end Wireform.Syntax
