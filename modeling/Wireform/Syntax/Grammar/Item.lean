import Wireform.Syntax.Grammar.Statement

namespace Wireform.Syntax.Rules

/-! Items. -/

open Wireform.Syntax.Parser

variable (rules : Rules)

/-! ## Parts of items -/

/-- The path of a visibility in parentheses, if they hold one. A single word has to stand alone,
since the parentheses could also belong to the type of a tuple field. -/
def visibilityPath : Parser Visibility := do
  if ← peek (Ahead.oneWordOf ["crate", "self", "super"]) then
    return .restricted false (.ofName (← anyName))
  else
    word "in"
    return .restricted true (← modulePath)

def visibility : Parser Visibility := do
  if ← takesWord "pub" then
    let trees ← get
    match trees with
    | .group .parenthesis content _ :: rest =>
      if Ahead.word "in" content then inside .parenthesis visibilityPath
      else
        match parseAll? visibilityPath content with
        | some found => set rest; return found
        | none => return .everywhere
    | _ => return .everywhere
  else
    return .inherited

abbrev FieldPhrase := Field × Phrase

def fieldOf (attributes : List Attribute) (visibility : Visibility) (name : Option Name) (ty : Ty)
    (position : Text.Position) : FieldPhrase :=
  (⟨attributes, visibility, name, ty, position⟩,
    Written.field (attributesPhrase attributes) visibility.phrase name ty)

/-- Fields in braces or parentheses, and whether a comma follows the last of them. -/
def fieldList (delimiter : Delimiter) (field : Parser FieldPhrase) :
    Parser (List FieldPhrase × Bool) :=
  inside delimiter (commaList field)

/-- A field with a name. The type of a field without one can be a struct or a union of its own. -/
def namedFieldRule : (depth : Nat) → Parser FieldPhrase
  | 0 => failure
  | depth + 1 => do
    let attributes ← rules.outerAttributes
    let visibility ← visibility
    let position ← position
    let anonymous ← peek (Ahead.word "_")
    let name ← if anonymous then anyName else name
    mark ":"
    if ← peek fun trees => anonymous && (Ahead.word "struct" trees ||
        (Ahead.word "union" trees && Ahead.group .brace (Ahead.skip trees))) then
      let before ← get
      discard anyName
      discard (fieldList .brace (namedFieldRule depth))
      let ty := .verbatim (← tokensSince before)
      return fieldOf attributes visibility (some name) ty position
    else
      return fieldOf attributes visibility (some name) (← rules.type true) position

def namedField : Parser FieldPhrase := do rules.namedFieldRule (Tree.sizeList (← get) + 1)

def tupleField : Parser FieldPhrase := do
  let attributes ← rules.outerAttributes
  let visibility ← visibility
  let position ← position
  return fieldOf attributes visibility none (← rules.type true) position

def namedFields : Parser (List FieldPhrase × Bool) := fieldList .brace rules.namedField

def tupleFields : Parser (List FieldPhrase × Bool) := fieldList .parenthesis rules.tupleField

def variant : Parser Phrase := do
  let attributes ← rules.outerPhrase
  discard visibility
  let name ← name
  let fields ← if ← peek (Ahead.group .brace) then do
      let (fields, trailing) ← rules.namedFields
      pure (.named (fields.map Prod.snd) trailing)
    else if ← peek (Ahead.group .parenthesis) then do
      let (fields, trailing) ← rules.tupleFields
      pure (.tuple (fields.map Prod.snd) trailing)
    else pure Written.VariantFields.none
  let number ← if ← takesMark "=" then some <$> rules.expression true else pure none
  return Written.variant (attributes ++ .ofName name) fields number

/-! ## Functions -/

inductive FunctionParameter where
  /-- The value that a method is called on. -/
  | receiver
  | variadic
  | ordinary
  deriving DecidableEq

def beginsReceiver (trees : List Tree) : Bool :=
  let unmarked := if Ahead.mark "&" trees then
      let after := Ahead.skip trees
      if Ahead.lifetime after then Ahead.skip after else after
    else trees
  let named := if Ahead.word "mut" unmarked then Ahead.skip unmarked else unmarked
  Ahead.word "self" named && !Ahead.mark "::" (Ahead.skip named)

/-- The parameter that a method is called on. -/
def receiver : Parser Phrase := do
  let reference ← takesMark "&"
  let lifetime ← if reference then optionalLifetime else pure none
  let mutable ← takesWord "mut"
  word "self"
  let typed ← if reference then pure false else takesMark ":"
  let ty ← if typed then some <$> rules.type true else pure none
  return Written.receiver reference lifetime mutable ty

/-- One parameter after its attributes. A type alone goes without the name that nobody asks for. -/
def functionParameter (attributes : Phrase) : Parser (FunctionParameter × Phrase) := do
  if ← takesMark "..." then return (.variadic, attributes ++ .mark "...")
  if ← peek beginsReceiver then
    return (.receiver, attributes ++ (← rules.receiver))
  if ← peek fun trees => Ahead.name trees && Ahead.mark "<" (Ahead.skip trees) then
    let ty ← rules.type true
    return (.ordinary, attributes ++ (PatternPhrase.wildcard.typed ty).phrase)
  let pattern ← rules.pattern
  mark ":"
  if ← takesMark "..." then
    let dots := Phrase.concat [attributes, pattern.phrase, .spacedMark ":" ": ", .mark "..."]
    return (.variadic, dots)
  return (.ordinary, attributes ++ (pattern.typed (← rules.type true)).phrase)

/-- The parameters of a function. A receiver has to be the first of them, and one that stands for
any number the last. -/
def functionParameters : Parser (List Phrase × Bool × Option Phrase) := do
  go (← get).length true
where
  go : Nat → Bool → Parser (List Phrase × Bool × Option Phrase)
    | 0, first => do
      require (← atEnd)
      return ([], !first, none)
    | rounds + 1, first => do
      if ← atEnd then return ([], !first, none)
      let attributes ← rules.outerPhrase
      let (kind, parameter) ← rules.functionParameter attributes
      require (first || kind ≠ .receiver)
      if kind = .variadic then
        let comma ← if ← atEnd then pure false else do mark ","; pure true
        require (← atEnd)
        return ([], !first, some (parameter ++ .trailingMark "," comma))
      if ← atEnd then return ([parameter], false, none)
      mark ","
      let (parameters, trailing, variadic) ← go rounds false
      return (parameter :: parameters, trailing, variadic)

/-- The words that can come before a function's keyword, and whether it is marked as `safe`, which
only foreign functions can be. -/
def functionWords (foreign : Bool) : Parser (Phrase × Bool) := do
  let constant ← takesWord "const"
  let async ← takesWord "async"
  let safe ← if foreign then takesWord "safe" else pure false
  let unchecked ← if safe then pure false else takesWord "unsafe"
  let convention ← optionalConvention
  let words := Written.words
    [(constant, "const"), (async, "async"), (safe, "safe"), (unchecked, "unsafe")]
  return (words ++ convention, safe)

def beginsFunctionItem (foreign : Bool) (trees : List Tree) : Bool :=
  match (functionWords foreign).run trees with
  | some (_, rest) => Ahead.word "fn" rest
  | none => false

structure Signature where
  method : Method
  written : Phrase
  predicates : Predicates
  safe : Bool

def signature (foreign : Bool) : Parser Signature := do
  let (words, safe) ← functionWords foreign
  word "fn"
  let position ← position
  let name ← name
  let parameters ← rules.parameters
  let (inputs, trailing, variadic) ← inside .parenthesis rules.functionParameters
  let output ← rules.output true
  let predicates ← rules.predicates
  let words := words ++ .spacedWord "fn"
  return ⟨⟨name, position⟩,
    Written.signature words name parameters inputs trailing variadic output, predicates, safe⟩

def optionalBody : Parser (Option Block) := do
  if ← takesMark ";" then return none else return some (← rules.attributedBlock)

/-! ## Types and constants -/

def associatedBounds : Parser (Option (List Bound × Bool)) := do
  if ← takesMark ":" then
    let stop (trees : List Tree) : Bool :=
      Ahead.word "where" trees || Ahead.mark "=" trees || Ahead.mark ";" trees
    return some (← listUntil stop "+" (rules.bound false true))
  else
    return none

/-- Where a type declaration can have its where clause. -/
inductive ClausePlace where
  | beforeDefinition
  | afterDefinition
  | anywhere
  deriving DecidableEq

structure TypeDeclaration where
  name : Name
  parameters : Parameters
  bounds : Option (List Bound × Bool)
  definition : Option Ty
  predicates : Predicates

def typeDeclaration (place : ClausePlace) : Parser TypeDeclaration := do
  word "type"
  let name ← name
  let parameters ← rules.parameters
  let bounds ← rules.associatedBounds
  let clause ← peek fun trees => place ≠ .afterDefinition && Ahead.word "where" trees
  let before ← if clause then rules.predicates else pure ⟨[], false⟩
  let ty ← if ← takesMark "=" then some <$> rules.type true else pure none
  let predicates ← if place ≠ .beforeDefinition && !clause then rules.predicates else pure before
  mark ";"
  return ⟨name, parameters, bounds, ty, predicates⟩

/-- The type that a declaration gives its name to. There is none where no definition is given, or
where bounds make the declaration something else. -/
def TypeDeclaration.definition? (declaration : TypeDeclaration) : Option Ty :=
  if declaration.bounds.isSome then none else declaration.definition

structure ConstantDeclaration where
  name : Name
  ty : Ty
  value : Option ExprPhrase
  /-- Whether the constant depends on parameters. -/
  generic : Bool

def constantDeclaration : Parser ConstantDeclaration := do
  word "const"
  let name ← nameOr "_"
  let generic ← peek (Ahead.mark "<")
  discard rules.parameters
  mark ":"
  let ty ← rules.type true
  let value ← if ← takesMark "=" then some <$> rules.expression true else pure none
  let clause ← peek (Ahead.word "where")
  discard rules.predicates
  mark ";"
  return ⟨name, ty, value, generic || clause⟩

/-- An invocation that stands for items. Only braces end it without a semicolon. -/
def itemInvocation : Parser Phrase := do
  let path ← modulePath
  mark "!"
  let (delimiter, content) ← anyGroup
  if delimiter ≠ .brace then mark ";"
  return Written.invocation (invocationPhrase path none delimiter content) delimiter

/-- A block in braces with inner attributes and what `member` reads. -/
def members {α : Type} (member : Parser α) : Parser (List Attribute × List α) :=
  inside .brace do
    let attributes ← rules.innerAttributes
    return (attributes, ← untilEnd member)

/-! ## Traits, implementations and foreign items -/

def defaultMark (trees : List Tree) : Bool :=
  Ahead.word "default" trees && !Ahead.mark "!" (Ahead.skip trees)

/-- What the tokens since `before` stand for, if the item has a form that is never written. -/
def orVerbatim (before : List Tree) (written : Option Phrase) : Parser Phrase := do
  match written with
  | some written => return written
  | none => return .unprintable (← tokensSince before)

def traitFunction (before : List Tree) (attributes : Phrase) (marked : Bool) : Parser Phrase := do
  let head ← rules.signature false
  let body ← rules.optionalBody
  let written := attributes ++ Written.function head.written head.predicates body
  orVerbatim before (if marked then none else some written)

def traitConstant (before : List Tree) (attributes : Phrase) (marked : Bool) : Parser Phrase := do
  let constant ← rules.constantDeclaration
  let written := attributes ++
    Written.value Text.Layout.indent (.spacedWord "const") constant.name .empty constant.ty
      constant.value
  orVerbatim before (if marked || constant.generic then none else some written)

/-- The bounds of an associated type, which stand on lines of their own. -/
def associatedBoundsPhrase : Option (List Bound × Bool) → Phrase
  | some (bounds, trailing) =>
    Written.boundsAfterColon (.gap .blank ++ .spacedMark "+" "+ ") bounds trailing
  | none => .empty

def traitType (before : List Tree) (attributes : Phrase) (marked : Bool) : Parser Phrase := do
  let declared ← rules.typeDeclaration .afterDefinition
  let written := attributes ++
    Written.associatedType .empty declared.name declared.parameters
      (associatedBoundsPhrase declared.bounds) declared.definition declared.predicates
  orVerbatim before (if marked then none else some written)

/-- A member of a trait. One that is marked as only members of implementations can be is taken as it
is. -/
def traitMember : Parser Phrase := do
  let before ← get
  let attributes ← rules.outerPhrase
  let visible ← peek (Ahead.word "pub")
  discard visibility
  let defaulted ← takesWord "default"
  let marked := visible || defaulted
  if ← peek (beginsFunctionItem false) then rules.traitFunction before attributes marked
  else if ← peek (Ahead.word "const") then rules.traitConstant before attributes marked
  else if ← peek (Ahead.word "type") then rules.traitType before attributes marked
  else
    require (!marked)
    require (← peek Ahead.pathWord)
    return attributes ++ (← itemInvocation)

/-- A function of an implementation; a method if it has a body. -/
def implementationFunction (before : List Tree) (attributes words : Phrase) :
    Parser (Option Method × Phrase) := do
  let head ← rules.signature false
  match ← rules.optionalBody with
  | some body =>
    let written := Written.function (words ++ head.written) head.predicates (some body)
    return (some head.method, attributes ++ written)
  | none => return (none, ← orVerbatim before none)

def implementationConstant (before : List Tree) (attributes words : Phrase) : Parser Phrase := do
  let constant ← rules.constantDeclaration
  let written := attributes ++ Written.value 0 (words ++ .spacedWord "const") constant.name .empty
    constant.ty constant.value
  let plain := constant.value.isSome && !constant.generic
  orVerbatim before (if plain then some written else none)

def implementationType (before : List Tree) (attributes words : Phrase) : Parser Phrase := do
  let declared ← rules.typeDeclaration .afterDefinition
  let written := attributes ++ Written.associatedType words declared.name declared.parameters
    .empty declared.definition declared.predicates
  orVerbatim before (declared.definition?.map fun _ => written)

def takesDefault : Parser Bool := do
  let defaulted ← peek defaultMark
  if defaulted then word "default"
  return defaulted

/-- A member of an implementation, with the method that it is. -/
def implementationMember : Parser (Option Method × Phrase) := do
  let before ← get
  let attributes ← rules.outerPhrase
  let visible ← peek (Ahead.word "pub")
  let visibility ← visibility
  let defaulted ← takesDefault
  let words := visibility.phrase ++ Written.words [(defaulted, "default")]
  if ← peek (beginsFunctionItem false) then rules.implementationFunction before attributes words
  else if ← peek (Ahead.word "const") then
    return (none, ← rules.implementationConstant before attributes words)
  else if ← peek (Ahead.word "type") then
    return (none, ← rules.implementationType before attributes words)
  else
    require (!visible && !defaulted)
    require (← peek Ahead.pathWord)
    return (none, attributes ++ (← itemInvocation))

def foreignFunction (before : List Tree) (attributes visibility : Phrase) : Parser Phrase := do
  let head ← rules.signature true
  let body ← rules.optionalBody
  let written := attributes ++ Written.function (visibility ++ head.written) head.predicates none
  orVerbatim before (if head.safe || body.isSome then none else some written)

def foreignStatic (before : List Tree) (attributes visibility : Phrase) : Parser Phrase := do
  let unchecked ← takesWord "unsafe"
  let safe ← if unchecked then pure false else takesWord "safe"
  word "static"
  let mutable ← takesWord "mut"
  let name ← name
  mark ":"
  let ty ← rules.type true
  let value ← if ← takesMark "=" then some <$> rules.expression true else pure none
  mark ";"
  let words := visibility ++ Written.words [(true, "static"), (mutable, "mut")]
  let written := attributes ++ Written.value 0 words name .empty ty none
  orVerbatim before (if unchecked || safe || value.isSome then none else some written)

def foreignType (before : List Tree) (attributes visibility : Phrase) : Parser Phrase := do
  let declared ← rules.typeDeclaration .anywhere
  let written := attributes ++ Written.foreignType visibility declared.name declared.parameters
    declared.predicates
  let plain := declared.bounds.isNone && declared.definition.isNone
  orVerbatim before (if plain then some written else none)

def foreignMember : Parser Phrase := do
  let before ← get
  let attributes ← rules.outerPhrase
  let visible ← peek (Ahead.word "pub")
  let visibility ← visibility
  if ← peek (beginsFunctionItem true) then
    rules.foreignFunction before attributes visibility.phrase
  else if ← peek fun trees => Ahead.word "static" trees ||
      (Ahead.oneWordOf ["unsafe", "safe"] trees && Ahead.word "static" (Ahead.skip trees)) then
    rules.foreignStatic before attributes visibility.phrase
  else if ← peek (Ahead.word "type") then
    rules.foreignType before attributes visibility.phrase
  else
    require (!visible)
    require (← peek Ahead.pathWord)
    return attributes ++ (← itemInvocation)

def foreignModule (attributes : Phrase) : Parser Phrase := do
  let unchecked ← takesWord "unsafe"
  require (← peek (Ahead.word "extern"))
  let convention ← optionalConvention
  let (inner, members) ← rules.members rules.foreignMember
  let words := Written.words [(unchecked, "unsafe")] ++ convention
  return attributes ++ Written.foreignModule words (attributesPhrase inner) members

/-- A trait or a name for several traits. -/
def trait (attributes visibility : Phrase) : Parser (Name × Phrase) := do
  let plain ← peek (Ahead.word "trait")
  let unchecked ← takesWord "unsafe"
  let automatic ← takesWord "auto"
  word "trait"
  let name ← name
  let parameters ← rules.parameters
  let words := visibility ++ Written.words [(unchecked, "unsafe"), (automatic, "auto")]
  let head := Written.named words "trait" name parameters
  if plain && (← peek (Ahead.mark "=")) then
    mark "="
    let stop (trees : List Tree) : Bool := Ahead.word "where" trees || Ahead.mark ";" trees
    let (bounds, trailing) ← listUntil stop "+" (rules.bound false true)
    let predicates ← rules.predicates
    mark ";"
    return (name, attributes ++ Written.traitAlias head bounds trailing predicates)
  else
    let stop (trees : List Tree) : Bool := Ahead.word "where" trees || Ahead.group .brace trees
    let (bounds, trailing) ← if ← takesMark ":" then
        listUntil stop "+" (rules.bound false true)
      else pure ([], false)
    let predicates ← rules.predicates
    let (inner, members) ← rules.members rules.traitMember
    return (name, attributes ++
      Written.trait head bounds trailing predicates (attributesPhrase inner) members)

/-- An implementation. A form that only an unstable compiler knows is taken as it is. -/
def implementation (before : List Tree) (attributes : Phrase) (visible : Bool) :
    Parser ItemPhrase := do
  let defaulted ← takesWord "default"
  let unchecked ← takesWord "unsafe"
  word "impl"
  let parameters ← if ← peek opensParameters then rules.parameters else pure ⟨[], false⟩
  let constant ← peek fun trees => Ahead.word "const" trees ||
    (Ahead.mark "?" trees && Ahead.word "const" (Ahead.skip trees))
  if constant then
    discard (takesMark "?")
    word "const"
  let negative ← peek fun trees =>
    Ahead.mark "!" trees && !Ahead.group .brace (Ahead.skip trees)
  if negative then mark "!"
  let first ← rules.type true
  let ofTrait ← takesWord "for"
  require (ofTrait || !negative)
  let self ← if ofTrait then rules.type true else pure first
  let isPath := match first with
    | .path _ => true
    | _ => false
  let predicates ← rules.predicates
  let (inner, members) ← rules.members rules.implementationMember
  if visible || constant || (ofTrait && !isPath) then
    return ⟨.other, ← orVerbatim before none⟩
  else
    let words := Written.words [(defaulted, "default"), (unchecked, "unsafe")]
    let polarity := if negative then Phrase.mark "!" else .empty
    let implemented := if ofTrait then some (polarity ++ first.phrase) else none
    return ⟨.implementation parameters self (members.filterMap Prod.fst),
      attributes ++ Written.implementation words parameters implemented self predicates
        (attributesPhrase inner) (members.map Prod.snd)⟩

/-! ## Use declarations and modules -/

/-- What a use declaration brings into scope; `none` where a tree in a group starts at the crate
root, which brings nothing. `rooted` says whether such a tree is admitted here. -/
def useTree : (depth : Nat) → (rooted : Bool) → Parser (Option UseTree × Written.UsePhrase)
  | 0, _ => failure
  | depth + 1, rooted => do
    if ← peek fun trees =>
        Ahead.name trees || Ahead.oneWordOf ["self", "super", "crate", "try"] trees then
      let name ← anyName
      if ← takesMark "::" then
        match ← useTree depth false with
        | (some rest, written) =>
          return (some (.segment name rest),
            ⟨.concat [.ofName name, .mark "::", written.written], written.endsInGroup⟩)
        | (none, _) => failure
      else if ← takesWord "as" then
        let newName ← nameOr "_"
        return (some (.rename name newName),
          ⟨.concat [.ofName name, .blank, .spacedWord "as", .ofName newName], false⟩)
      else
        return (some (.name name), ⟨.ofName name, false⟩)
    else if ← takesMark "*" then
      return (some .everything, ⟨.mark "*", false⟩)
    else
      inside .brace do
        let (trees, trailing) ← commaList do
          let root ← if rooted then takesMark "::" else pure false
          let (tree, written) ← useTree depth (rooted && !root)
          return (if root then none else tree, written)
        return ((trees.mapM Prod.fst).map UseTree.group,
          Written.useGroup (trees.map Prod.snd) trailing)

def useDeclaration (before : List Tree) (attributes visibility : Phrase) :
    Parser ItemPhrase := do
  word "use"
  let global ← takesMark "::"
  let (tree, written) ← useTree (Tree.sizeList (← get) + 1) (!global)
  mark ";"
  match tree with
  | some tree =>
    return ⟨.use global tree, attributes ++ Written.useDeclaration visibility global written⟩
  | none => return ⟨.other, ← orVerbatim before none⟩

def externalCrate (attributes visibility : Phrase) : Parser ItemPhrase := do
  word "extern"
  word "crate"
  let name ← nameOr "self"
  let newName ← if ← takesWord "as" then
      some <$> nameOr "_"
    else pure none
  mark ";"
  return ⟨.externalCrate name newName,
    attributes ++ Written.externalCrate visibility name newName⟩

def items : Parser (List ItemPhrase) := untilEnd do
  let before ← get
  let attributes ← rules.outerAttributes
  rules.item before attributes

def module (attributes : List Attribute) (visibility : Visibility) : Parser ItemPhrase := do
  let unchecked ← takesWord "unsafe"
  word "mod"
  let name ← nameOr "try"
  let words := visibility.phrase ++ Written.words [(unchecked, "unsafe")]
  let outer := attributesPhrase attributes
  if ← takesMark ";" then
    return ⟨.module attributes visibility name none, outer ++ Written.module words name none⟩
  else
    inside .brace do
      let inner ← rules.innerAttributes
      let items ← rules.items
      let content := (attributesPhrase inner, items.map ItemPhrase.written)
      return ⟨.module (attributes ++ inner) visibility name (some (items.map ItemPhrase.item)),
        outer ++ Written.module words name (some content)⟩

/-! ## All items -/

def static (before : List Tree) (attributes visibility : Phrase) : Parser ItemPhrase := do
  word "static"
  let mutable ← takesWord "mut"
  let name ← name
  if ← takesMark "=" then
    discard (rules.expression true)
    mark ";"
    return ⟨.other, ← orVerbatim before none⟩
  mark ":"
  let ty ← rules.type true
  if ← takesMark ";" then return ⟨.other, ← orVerbatim before none⟩
  mark "="
  let value ← rules.expression true
  mark ";"
  let words := visibility ++ Written.words [(true, "static"), (mutable, "mut")]
  return ⟨.declaration .static name,
    attributes ++ Written.value 0 words name .empty ty (some value)⟩

def constant (before : List Tree) (attributes visibility : Phrase) : Parser ItemPhrase := do
  let declared ← rules.constantDeclaration
  match declared.value, declared.generic with
  | some value, false =>
    return ⟨.constant declared.name declared.ty value.expr,
      attributes ++ Written.value 0 (visibility ++ .spacedWord "const") declared.name .empty
        declared.ty (some value)⟩
  | _, _ => return ⟨.other, ← orVerbatim before none⟩

def typeAlias (before : List Tree) (attributes visibility : Phrase) : Parser ItemPhrase := do
  let declared ← rules.typeDeclaration .beforeDefinition
  match declared.definition? with
  | some ty =>
    return ⟨.typeAlias declared.name declared.parameters ty,
      attributes ++ Written.typeAlias visibility declared.name declared.parameters
        declared.predicates ty⟩
  | none => return ⟨.other, ← orVerbatim before none⟩

/-- A struct. The where clause of a tuple struct comes after its fields. -/
def struct (attributes : List Attribute) (visibility : Visibility) : Parser ItemPhrase := do
  word "struct"
  let position ← position
  let name ← name
  let parameters ← rules.parameters
  let outer := attributesPhrase attributes
  let head := Written.named visibility.phrase "struct" name parameters
  let declared (predicates : Predicates) (fields : List FieldPhrase) (written : Phrase) :
      ItemPhrase :=
    ⟨.struct ⟨attributes, visibility, name, position, parameters, predicates,
      fields.map Prod.fst⟩, outer ++ written⟩
  let clause ← peek (Ahead.word "where")
  let before ← rules.predicates
  if !clause && (← peek (Ahead.group .parenthesis)) then
    let (fields, trailing) ← rules.tupleFields
    let after ← rules.predicates
    mark ";"
    return declared after fields
      (Written.tupleStruct head (fields.map Prod.snd) trailing after)
  else if ← peek (Ahead.group .brace) then
    let (fields, trailing) ← rules.namedFields
    return declared before fields (Written.record head before (fields.map Prod.snd) trailing)
  else
    mark ";"
    return declared before [] (Written.unitStruct head before)

def enumeration (attributes visibility : Phrase) : Parser ItemPhrase := do
  word "enum"
  let name ← name
  let parameters ← rules.parameters
  let predicates ← rules.predicates
  let (variants, trailing) ← inside .brace (commaList rules.variant)
  let head := Written.named visibility "enum" name parameters
  return ⟨.declaration .enumeration name,
    attributes ++ Written.record head predicates variants trailing⟩

def union (attributes visibility : Phrase) : Parser ItemPhrase := do
  word "union"
  let name ← name
  let parameters ← rules.parameters
  let predicates ← rules.predicates
  let (fields, trailing) ← rules.namedFields
  let head := Written.named visibility "union" name parameters
  return ⟨.declaration .union name,
    attributes ++ Written.record head predicates (fields.map Prod.snd) trailing⟩

/-- A definition by tokens in the newer form, which declares nothing that can be named here. -/
def tokenDefinition (before : List Tree) : Parser ItemPhrase := do
  word "macro"
  discard name
  if ← peek (Ahead.group .parenthesis) then discard anyGroup
  inside .brace (discard everything)
  return ⟨.other, ← orVerbatim before none⟩

def namedInvocation (path : Path) (name : Name) (delimiter : Delimiter) (content : List Tree) :
    Phrase :=
  if path.isName "macro_rules" then
    .concat [rulesPhrase path name delimiter content, .trailingMark ";" (delimiter ≠ .brace),
      .lineEnd]
  else Written.invocation (invocationPhrase path (some name) delimiter content) delimiter

/-- An invocation that stands for items, or the definition of what can be invoked. -/
def invocationItem (attributes : Phrase) : Parser ItemPhrase := do
  let path ← modulePath
  mark "!"
  let name ← if ← peek fun trees => Ahead.name trees || Ahead.word "try" trees then
      some <$> nameOr "try"
    else pure none
  let (delimiter, content) ← anyGroup
  if delimiter ≠ .brace then mark ";"
  match name with
  | some name =>
    return ⟨.declaration .macroRules name,
      attributes ++ namedInvocation path name delimiter content⟩
  | none =>
    let written := Written.invocation (invocationPhrase path none delimiter content) delimiter
    return ⟨.other, attributes ++ written⟩

def function (before : List Tree) (attributes visibility : Phrase) : Parser ItemPhrase := do
  let head ← rules.signature false
  match ← rules.optionalBody with
  | some body =>
    return ⟨.declaration .function head.method.name,
      attributes ++
        Written.function (visibility ++ head.written) head.predicates (some body)⟩
  | none => return ⟨.other, ← orVerbatim before none⟩

def itemRule (before : List Tree) (attributes : List Attribute) : Parser ItemPhrase := do
  let visible ← peek (Ahead.word "pub")
  let visibility ← visibility
  let trees ← get
  let second := Ahead.skip trees
  let outer := attributesPhrase attributes
  let written := visibility.phrase
  if beginsFunctionItem false trees then rules.function before outer written
  else if Ahead.word "extern" trees then
    if Ahead.word "crate" second then externalCrate outer written
    else
      require (!visible)
      return ⟨.other, ← rules.foreignModule outer⟩
  else if Ahead.word "use" trees then useDeclaration before outer written
  else if Ahead.word "static" trees then rules.static before outer written
  else if Ahead.word "const" trees then rules.constant before outer written
  else if Ahead.word "mod" trees || (Ahead.word "unsafe" trees && Ahead.word "mod" second) then
    rules.module attributes visibility
  else if Ahead.word "type" trees then rules.typeAlias before outer written
  else if Ahead.word "struct" trees then rules.struct attributes visibility
  else if Ahead.word "enum" trees then rules.enumeration outer written
  else if beginsUnion trees then rules.union outer written
  else if Ahead.word "trait" trees || (Ahead.word "auto" trees && Ahead.word "trait" second) ||
      (Ahead.word "unsafe" trees && (Ahead.word "trait" second ||
        (Ahead.word "auto" second && Ahead.word "trait" (Ahead.skip second)))) then
    let (name, written) ← rules.trait outer written
    return ⟨.declaration .trait name, written⟩
  else if Ahead.word "impl" trees || defaultMark trees ||
      (Ahead.word "unsafe" trees && Ahead.word "impl" second) then
    rules.implementation before outer visible
  else if Ahead.word "unsafe" trees && Ahead.word "extern" second then
    require (!visible)
    return ⟨.other, ← rules.foreignModule outer⟩
  else if Ahead.word "macro" trees then tokenDefinition before
  else
    require (!visible && Ahead.pathWord trees)
    invocationItem outer

end Wireform.Syntax.Rules
