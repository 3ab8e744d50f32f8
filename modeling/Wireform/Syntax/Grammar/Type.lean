import Wireform.Syntax.Grammar.Attribute

namespace Wireform.Syntax.Rules

/-! Types, paths with arguments, bounds and parameters. -/

open Wireform.Syntax.Parser

/-- Puts the items that `first` holds of in front, and says whether a separator follows the last
item in the new order: only the last one written can lack it. -/
def reorder {α : Type} (first : α → Bool) (items : List α) (trailing : Bool) : List α × Bool :=
  let (front, back) := items.partition first
  let moved := match items.getLast? with
    | some last => first last && !back.isEmpty
    | none => false
  (front ++ back, trailing || moved)

variable (rules : Rules)

/-! ## Arguments and paths -/

/-- A constant argument: a literal, a name or a block. -/
def constantArgument : Parser Phrase := do
  if ← peek Ahead.literal then return (← literal).phrase
  else if ← peek Ahead.name then
    return .ofName (← name)
  else
    return (ExprPhrase.block none (← rules.attributedBlock)).phrase

def beginsConstant (trees : List Tree) : Bool := Ahead.literal trees || Ahead.group .brace trees

def argument : Parser Argument := do
  if ← peek fun trees => Ahead.lifetime trees && !Ahead.mark "+" (Ahead.skip trees) then
    return .lifetime (← lifetime)
  if ← peek beginsConstant then
    return .constant (← rules.constantArgument)
  let ty ← rules.type true
  match ty with
  | .path (.mk false [.mk name arguments]) =>
    if ← takesMark "=" then
      if ← peek beginsConstant then
        return .equalConstant name arguments (← rules.constantArgument)
      else
        return .equalType name arguments (← rules.type true)
    else if ← takesMark ":" then
      let stop (trees : List Tree) : Bool := Ahead.mark "," trees || Ahead.mark ">" trees
      let (bounds, trailing) ← listWhile stop "+" (rules.bound false true)
      return .bounded name arguments bounds trailing
    else
      return .type ty
  | ty => return .type ty

def isLifetimeArgument : Argument → Bool
  | .lifetime _ => true
  | _ => false

/-- Arguments in angle brackets, after the separator that may come before them. -/
def angledArguments : Parser Arguments := do
  let marked ← takesMark "::"
  mark "<"
  let (arguments, trailing) ← listUntil (Ahead.mark ">") "," rules.argument
  mark ">"
  let (arguments, trailing) := reorder isLifetimeArgument arguments trailing
  return .angled marked arguments trailing

def output (plus : Bool) : Parser (Option Ty) := do
  if ← takesMark "->" then return some (← rules.type plus) else return none

def calledArguments : Parser Arguments := do
  let (inputs, trailing) ← inside .parenthesis (commaList (rules.type true))
  return .called inputs trailing (← rules.output false)

/-- Whether an angle bracket opens arguments. In an expression it needs a separator before it, for
it could be a comparison. -/
def opensArguments (expression : Bool) (trees : List Tree) : Bool :=
  (!expression && Ahead.mark "<" trees && !Ahead.mark "<=" trees && !Ahead.mark "<<=" trees) ||
    (Ahead.mark "::" trees && Ahead.mark "<" (Ahead.skip (Ahead.skip trees)))

def segment (expression : Bool) : Parser Segment := do
  if ← peek (Ahead.oneWordOf ["super", "self", "crate", "try"]) then
    return .plain (← anyName)
  let name ← nameOr "Self"
  if ← peek (opensArguments expression) then
    return .mk name (← rules.angledArguments)
  else
    return .plain name

def continuesPath (trees : List Tree) : Bool :=
  Ahead.mark "::" trees && !Ahead.group .parenthesis (Ahead.skip (Ahead.skip trees))

def path (expression : Bool) : Parser Path := do
  let global ← takesMark "::"
  let first ← rules.segment expression
  let rest ← manyWhile continuesPath do
    mark "::"
    rules.segment expression
  return .mk global (first :: rest)

def projection (expression : Bool) : Parser Projection := do
  mark "<"
  let self ← rules.type true
  let anchor ← if ← takesWord "as" then some <$> rules.path false else pure none
  mark ">"
  mark "::"
  let first ← rules.segment expression
  let rest ← manyWhile (Ahead.mark "::") do
    mark "::"
    rules.segment expression
  return .mk self anchor (first :: rest)

/-! ## Parameters and bounds -/

/-- Bounds after a colon, if there is a colon, up to `stop`. -/
def boundsAfterColon (stop : List Tree → Bool) : Parser (List Bound × Bool) := do
  if ← takesMark ":" then listWhile stop "+" (rules.bound false true) else return ([], false)

def lifetimesAfterColon (stop : List Tree → Bool) : Parser (List Name × Bool) := do
  if ← takesMark ":" then listWhile stop "+" lifetime else return ([], false)

def endsLifetimes (trees : List Tree) : Bool :=
  trees.isEmpty || Ahead.mark "," trees || Ahead.mark ">" trees

def endsBounds (trees : List Tree) : Bool := endsLifetimes trees || Ahead.mark "=" trees

/-- One parameter. An underscore, which takes neither bounds nor a default, can stand for a type
where `anonymous`. -/
def parameter (anonymous : Bool) : Parser Parameter := do
  let attributes ← rules.outerPhrase
  if ← peek Ahead.lifetime then
    let name ← lifetime
    let (bounds, trailing) ← lifetimesAfterColon endsLifetimes
    return .lifetime attributes name bounds trailing
  else if ← peek Ahead.name then
    let name ← name
    let (bounds, trailing) ← rules.boundsAfterColon endsBounds
    let default ← if ← takesMark "=" then some <$> rules.type true else pure none
    return .type attributes name bounds trailing default
  else if ← takesWord "const" then
    let name ← name
    mark ":"
    let ty ← rules.type true
    let default ← if ← takesMark "=" then some <$> rules.constantArgument else pure none
    return .constant attributes name ty default
  else
    require anonymous
    word "_"
    return .type attributes (.plain "_") [] false none

def isLifetimeParameter : Parameter → Bool
  | .lifetime _ _ _ _ => true
  | _ => false

def parameters : Parser Parameters := do
  if ← takesMark "<" then
    let (list, trailing) ← listUntil (Ahead.mark ">") "," (rules.parameter true)
    mark ">"
    let (list, trailing) := reorder isLifetimeParameter list trailing
    return ⟨list, trailing⟩
  else
    return ⟨[], false⟩

def binder : Parser Binder := do
  word "for"
  mark "<"
  let (list, trailing) ← listUntil (Ahead.mark ">") "," (rules.parameter false)
  mark ">"
  return .mk list trailing

def optionalBinder : Parser (Option Binder) := do
  if ← peek (Ahead.word "for") then some <$> rules.binder else return none

def capturedParameter : Parser Phrase := do
  if ← peek Ahead.lifetime then return .ofLifetime (← lifetime)
  else if ← takesWord "Self" then return .word "Self"
  else return .ofName (← name)

def capturedParameters : Parser Phrase := do
  word "use"
  mark "<"
  let (list, trailing) ← listUntil (Ahead.mark ">") "," capturedParameter
  mark ">"
  return .concat [.word "use", .mark "<", .joined (.spacedMark "," ", ") list,
    .trailingMark "," (trailing && !list.isEmpty), .mark ">"]

/-- What says that a bound holds in constant code: the word, in brackets if it does so only where
the code is constant. -/
def constancy : Parser Phrase := do
  if ← peek (Ahead.group .bracket) then
    inside .bracket (word "const")
    return .inBrackets (.word "const")
  else if ← takesWord "const" then
    return .word "const"
  else
    return .empty

/-- A path with arguments in parentheses behind its last name, if they come next. -/
def calledPath (path : Path) : Parser Path := do
  let called ← peek fun trees => Ahead.group .parenthesis trees ||
    (Ahead.mark "::" trees && Ahead.group .parenthesis (Ahead.skip (Ahead.skip trees)))
  match path with
  | .mk global segments =>
    match segments.getLast? with
    | some (.mk name arguments) =>
      if called && arguments.isEmpty then
        discard (takesMark "::")
        return .mk global (segments.dropLast ++ [.mk name (← rules.calledArguments)])
      else return path
    | none => return path

/-- A trait bound that holds in constant code, as it is written. -/
def constantBound (grouped : Bool) (before : Option Binder) (constancy : Phrase) (relaxed : Bool)
    (after : Option Binder) (path : Path) : Bound :=
  let written := Phrase.concat [optionalBinderPhrase before, constancy,
    if relaxed then .mark "?" else .empty, optionalBinderPhrase after, path.phrase false]
  .verbatim (if grouped then written.inParentheses else written).tokens

/-- A trait bound without the parentheses around it. One that holds in constant code is taken as it
is. -/
def traitBound (grouped constant : Bool) : Parser Bound := do
  let before ← rules.optionalBinder
  let constancy ← constancy
  require (constancy.tokens.isEmpty || constant)
  let relaxed ← takesMark "?"
  let after ← if relaxed && before.isNone then rules.optionalBinder else pure none
  let path ← rules.calledPath (← rules.path false)
  let binder := before.or after
  require (!(binder.isSome && relaxed))
  if constancy.tokens.isEmpty then return .trait grouped binder relaxed path
  else return constantBound grouped before constancy relaxed after path

def boundRule (capture constant : Bool) : Parser Bound := do
  if ← peek Ahead.lifetime then
    return .lifetime (← lifetime)
  if ← peek (Ahead.word "use") then
    let written ← capturedParameters
    require capture
    return .captured written
  if ← peek (Ahead.group .parenthesis) then inside .parenthesis (rules.traitBound true constant)
  else rules.traitBound false constant

/-- Whether a plus sign in a list of bare bounds goes on with one more bound. -/
def beginsBareBound (trees : List Tree) : Bool :=
  Ahead.anyWord trees || Ahead.mark "::" trees || Ahead.mark "?" trees || Ahead.lifetime trees ||
    Ahead.group .parenthesis trees

def beginsBound (trees : List Tree) : Bool :=
  beginsBareBound trees || Ahead.group .bracket trees

/-- Bounds with plus signs between them, just one where `plus` is false. Those of a type that is
`existential` may list captured parameters and hold in constant code. -/
def bounds (plus existential : Bool) : Parser (List Bound × Bool) := do
  let bound := rules.bound existential existential
  let begins := if existential then beginsBound else beginsBareBound
  if plus then
    let first ← bound
    if ← takesMark "+" then
      let (rest, trailing) ← listWhile (fun trees => !begins trees) "+" bound
      return (first :: rest, trailing || rest.isEmpty)
    else
      return ([first], false)
  else
    return ([← bound], false)

/-- Whether a bound names a trait. A list of lifetimes alone is no type. -/
def namesTrait : Bound → Bool
  | .lifetime _ => false
  | .captured _ => false
  | .trait _ _ _ _ => true
  | .verbatim _ => true

def predicate : Parser Predicate := do
  if ← peek fun trees => Ahead.lifetime trees && Ahead.mark ":" (Ahead.skip trees) then
    let name ← lifetime
    let stop (trees : List Tree) : Bool := trees.isEmpty || Ahead.group .brace trees ||
      Ahead.mark "," trees || Ahead.mark ";" trees || Ahead.mark ":" trees || Ahead.mark "=" trees
    let (bounds, trailing) ← lifetimesAfterColon stop
    return .lifetime name bounds trailing
  else
    let binder ← rules.optionalBinder
    let ty ← rules.type true
    require (← peek (Ahead.mark ":"))
    let stop (trees : List Tree) : Bool := trees.isEmpty || Ahead.group .brace trees ||
      Ahead.mark "," trees || Ahead.mark ";" trees ||
      (Ahead.mark ":" trees && !Ahead.mark "::" trees) || Ahead.mark "=" trees
    let (bounds, trailing) ← rules.boundsAfterColon stop
    return .type binder ty bounds trailing

/-- Whether angle brackets open parameters rather than a path that starts at a type. -/
def opensParameters (trees : List Tree) : Bool :=
  let second := Ahead.skip trees
  let third := Ahead.skip second
  Ahead.mark "<" trees &&
    (Ahead.mark ">" second || Ahead.mark "#" second || Ahead.word "const" second ||
      ((Ahead.lifetime second || Ahead.name second) &&
        ([",", ">", "="].any (Ahead.mark · third) ||
          (Ahead.mark ":" third && !Ahead.mark "::" third))))

/-- A where clause, if its keyword comes next. It takes no parameters of its own. -/
def predicates : Parser Predicates := do
  if ← takesWord "where" then
    require (!(← peek opensParameters))
    let stop (trees : List Tree) : Bool := trees.isEmpty || Ahead.group .brace trees ||
      Ahead.mark "," trees || Ahead.mark ";" trees ||
      (Ahead.mark ":" trees && !Ahead.mark "::" trees) || Ahead.mark "=" trees
    let (list, trailing) ← listWhile stop "," rules.predicate
    return ⟨list, trailing⟩
  else
    return ⟨[], false⟩

/-! ## Types -/

/-- One parameter of a function pointer after its attributes. A mutable `self`, which only a method
can have, is taken as it is. -/
def functionInput (attributes : Phrase) (first : Bool) : Parser Input := do
  let before ← get
  let mutableSelf ← peek fun trees =>
    first && Ahead.word "mut" trees && Ahead.word "self" (Ahead.skip trees)
  if mutableSelf then word "mut"
  let named ← peek fun trees =>
    let after := Ahead.skip trees
    (Ahead.name trees || Ahead.word "_" trees || (first && Ahead.word "self" trees)) &&
      Ahead.mark ":" after && !Ahead.mark "::" after
  if named then
    let name ← anyName
    mark ":"
    let ty ← rules.type true
    if mutableSelf then return .mk attributes none (.verbatim (← tokensSince before))
    else return .mk attributes (some name) ty
  else if mutableSelf then
    word "self"
    return .mk attributes none (.verbatim (← tokensSince before))
  else
    return .mk attributes none (← rules.type true)

/-- The dots that stand for any further parameters. -/
def beginsVariadic (trees : List Tree) : Bool :=
  Ahead.mark "..." trees ||
    ((Ahead.name trees || Ahead.word "_" trees) && Ahead.mark ":" (Ahead.skip trees) &&
      Ahead.mark "..." (Ahead.skip (Ahead.skip trees)))

/-- The dots, with the comma that can follow them. -/
def variadicDots (before : Phrase) : Parser Phrase := do
  mark "..."
  return .concat [before, .mark "...", .trailingMark "," (← takesMark ",")]

def variadicInput (attributes : Phrase) : Parser Phrase := do
  if ← peek (Ahead.mark "...") then
    variadicDots attributes
  else
    let name ← anyName
    mark ":"
    variadicDots (.concat [attributes, .ofName name, .spacedMark ":" ": "])

/-- The parameters of a function pointer: those before the dots, whether a comma follows the last
of them, and the dots. -/
def functionInputs : Parser (List Input × Bool × Option Phrase) := do
  go (← get).length true
where
  go : Nat → Bool → Parser (List Input × Bool × Option Phrase)
    | 0, first => do
      require (← atEnd)
      return ([], !first, none)
    | rounds + 1, first => do
      if ← atEnd then return ([], !first, none)
      let attributes ← rules.outerPhrase
      if ← peek beginsVariadic then
        let dots ← variadicInput attributes
        require (← atEnd)
        return ([], !first, some dots)
      let input ← rules.functionInput attributes first
      if ← atEnd then return ([input], false, none)
      mark ","
      let (inputs, trailing, variadic) ← go rounds false
      return (input :: inputs, trailing, variadic)

def optionalConvention : Parser Phrase := do
  if ← takesWord "extern" then
    let name ← if ← peek Ahead.textLiteral then some <$> textLiteral else pure none
    return Written.convention name
  else
    return .empty

/-- The words in front of a function pointer's parameters. -/
def functionHeader : Parser Phrase := do
  let unchecked ← takesWord "unsafe"
  let convention ← optionalConvention
  word "fn"
  return .concat [Written.words [(unchecked, "unsafe")], convention, .word "fn"]

def functionPointer (binder : Option Binder) : Parser Ty := do
  let header ← functionHeader
  let (inputs, trailing, variadic) ← inside .parenthesis rules.functionInputs
  return .function binder header inputs trailing variadic (← rules.output false)

/-- A bound in parentheses, if a type in parentheses can be one. -/
def groupedBound? : Ty → Option Bound
  | .path path => some (.trait true none false path)
  | .object false [.trait _ binder relaxed path] false => some (.trait true binder relaxed path)
  | .object false [bound] false => some bound
  | _ => none

def moreBounds : Parser (List Bound) := manyWhile (Ahead.mark "+") do
  mark "+"
  rules.bound false false

/-- What a pair of parentheses holds at the start of a type. -/
inductive Parenthesized where
  | complete (ty : Ty)
  | relaxed (bound : Bound)
  | single (ty : Ty)

def parenthesizedContent : Parser Parenthesized := do
  if ← atEnd then return .complete (.tuple [] false)
  if ← peek Ahead.lifetime then
    let (bounds, trailing) ← rules.bounds true false
    require (bounds.any namesTrait)
    return .complete (.grouped (.object false bounds trailing))
  if ← peek (Ahead.mark "?") then
    return .relaxed (← rules.traitBound true false)
  let first ← rules.type true
  if ← takesMark "," then
    let (rest, trailing) ← commaList (rules.type true)
    return .complete (.tuple (first :: rest) (trailing || rest.isEmpty))
  else
    return .single first

def parenthesizedType (plus : Bool) : Parser Ty := do
  match ← inside .parenthesis rules.parenthesizedContent with
  | .complete ty => return ty
  | .relaxed bound => return .object false (bound :: (← rules.moreBounds)) false
  | .single ty =>
    if plus && (← peek (Ahead.mark "+")) then
      match groupedBound? ty with
      | some bound => return .object false (bound :: (← rules.moreBounds)) false
      | none => return .grouped ty
    else
      return .grouped ty

def pathType (plus : Bool) (binder : Option Binder) : Parser Ty := do
  if ← peek (Ahead.mark "<") then
    return .projection (← rules.projection false)
  let path ← rules.path false
  if ← peek fun trees => Ahead.mark "!" trees && !Ahead.mark "!=" trees && path.isPlain then
    mark "!"
    let (delimiter, content) ← anyGroup
    return .invocation (invocationPhrase path none delimiter content)
  let first := Bound.trait false binder false path
  if plus && (← peek (Ahead.mark "+")) then
    mark "+"
    let (rest, trailing) ←
      listWhile (fun trees => !beginsBareBound trees) "+" (rules.bound false false)
    return .object false (first :: rest) (trailing || rest.isEmpty)
  else if binder.isSome then
    return .object false [first] false
  else
    return .path path

def beginsPath (trees : List Tree) : Bool :=
  beginsPathName trees || Ahead.mark "::" trees || Ahead.mark "<" trees

def referenceType : Parser Ty := do
  mark "&"
  let lifetime ← optionalLifetime
  let mutable ← takesWord "mut"
  return .reference lifetime mutable (← rules.type false)

def pointerType : Parser Ty := do
  mark "*"
  let constant ← takesWord "const"
  if !constant then word "mut"
  return .pointer (!constant) (← rules.type false)

def objectType (plus : Bool) : Parser Ty := do
  word "dyn"
  let starred ← takesMark "*"
  let (bounds, trailing) ← rules.bounds plus false
  require (bounds.any namesTrait)
  if starred then
    let written := Phrase.concat [.word "dyn", .mark "*",
      .plusSeparated (bounds.map Bound.phrase) trailing]
    return .verbatim written.tokens
  else return .object true bounds trailing

def existentialType (plus : Bool) : Parser Ty := do
  word "impl"
  let (bounds, trailing) ← rules.bounds plus true
  require (bounds.any namesTrait)
  return .existential bounds trailing

/-- A type in brackets: an array if a length follows, else a slice. -/
def bracketedType : Parser Ty :=
  inside .bracket do
    let item ← rules.type true
    if ← takesMark ";" then return .array item (← rules.expression true).phrase
    else return .slice item

def boundType (plus : Bool) : Parser Ty := do
  let (bounds, trailing) ← rules.bounds plus false
  require (bounds.any namesTrait)
  return .object false bounds trailing

/-- A type that only a compiler can provide, with any arguments. -/
def providedType : Parser Ty := do
  word "builtin"
  mark "#"
  let name ← name
  let arguments ← inside .parenthesis everything
  return .verbatim ((Phrase.concat [.word "builtin", .mark "#", .ofName name]).tokens ++
    [Tree.inParentheses arguments])

def beginsProvided (trees : List Tree) : Bool :=
  Ahead.word "builtin" trees && Ahead.mark "#" (Ahead.skip trees)

def beginsFunction (trees : List Tree) : Bool :=
  Ahead.oneWordOf ["fn", "unsafe", "extern"] trees

def typeRule (plus : Bool) : Parser Ty := do
  let binder ← rules.optionalBinder
  if binder.isSome then
    require (← peek fun trees => beginsPathName trees || beginsFunction trees)
  if ← peek (Ahead.group .parenthesis) then rules.parenthesizedType plus
  else if ← peek beginsFunction then rules.functionPointer binder
  else if ← peek beginsProvided then providedType
  else if ← peek beginsPath then rules.pathType plus binder
  else if ← peek (Ahead.word "dyn") then rules.objectType plus
  else if ← peek (Ahead.group .bracket) then rules.bracketedType
  else if ← peek (Ahead.mark "*") then rules.pointerType
  else if ← peek (Ahead.mark "&") then rules.referenceType
  else if ← peek fun trees => Ahead.mark "!" trees && !Ahead.mark "=" trees then
    mark "!"
    return .never
  else if ← peek (Ahead.word "impl") then rules.existentialType plus
  else if ← takesWord "_" then return .inferred
  else if ← peek Ahead.lifetime then rules.boundType true
  else failure

end Wireform.Syntax.Rules
