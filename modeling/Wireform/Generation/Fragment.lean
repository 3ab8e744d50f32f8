import Wireform.Syntax.Parse
import Wireform.Text.Basic
import Wireform.Text.Quoted

/-! # Fragments

The source text that is generated for one struct. Its impls are put together from tokens and read
back, as every text is that is written anew. -/

namespace Wireform.Generation

open Wireform.Syntax Wireform.Text
open Wireform.Text.Doc (stack fill closing textOf)

/-- Everything that decides a fragment. -/
structure Blueprint where
  /-- The modules around the struct, outermost first. -/
  modules : List String
  name : Name
  parameters : Parameters
  predicates : Predicates
  /-- The fields that are serialized, by name or index. -/
  members : List String
  /-- Whether equality and hashing are generated as well. -/
  equality : Bool
  deriving Inhabited

structure Fragment where
  fileName : String
  code : String
  deriving DecidableEq, Repr, Inhabited

inductive FragmentError where
  /-- No name in a source text stands for this module. -/
  | unnamableModule (module : String)
  /-- The text that would be generated does not parse. -/
  | invalidCode (typeName : String)
  /-- The text that would be generated parses, but holds what is never written anew. -/
  | unprintableCode (typeName : String)
  deriving DecidableEq, Repr, Inhabited

def FragmentError.message : FragmentError → String
  | .unnamableModule module => s!"No name stands for module `{module}`"
  | .invalidCode typeName => s!"Invalid code generated for `{typeName}`"
  | .unprintableCode typeName => s!"No layout for the code generated for `{typeName}`"

def generatedHeader : String := "// @generated by autoser-gen. DO NOT EDIT.\n"

def fragmentSuffix : String := ".autoser.rs"

def indexFileName : String := "autoser.rs"

/-- The name of the fragment's file: the modules and the struct, with dots between them. -/
def Blueprint.fileName (blueprint : Blueprint) : String :=
  ".".intercalate (blueprint.modules ++ [blueprint.name.text]) ++ fragmentSuffix

/-! ## Statements -/

namespace Template

def field (owner member : String) : Doc :=
  stack Layout.indent [stack (-Layout.indent) [.text owner], .gap .empty, .text ("." ++ member)]

def statement (content : List Doc) : List Doc :=
  [Doc.fill 0 (content ++ [.text ";"]), .gap .lineEnd]

def result (content : List Doc) : List Doc := [fill 0 content, .gap .lineEnd]

def call (shift : Int) (arguments : List (List Doc)) : List Doc :=
  [.text "(", Doc.items shift arguments, .text ")"]

/-- The statement `serializer.serialize(&mut self.member)?;`. -/
def serializeField (member : String) : List Doc :=
  statement
    [stack Layout.indent
      [stack (-Layout.indent) [.text "serializer"], .gap .empty, .text ".serialize",
        stack 0 (call Layout.indent [[.text "&mut ", field "self" member]])],
      .text "?"]

/-- The statement `::autoser::HashField::hash_field(&self.member, state);`. -/
def hashField (member : String) : List Doc :=
  statement
    (.text "::autoser::HashField::hash_field" ::
      call Layout.indent [[.text "&", field "self" member], [.text "state"]])

def binary (operator : String) (left right : Doc) : Doc :=
  fill Layout.indent [fill (-Layout.indent) [left], .gap .blank, .text (operator ++ " "), right]

/-- The comparison `self.member == other.member`. -/
def fieldsEqual (member : String) : Doc := binary "==" (field "self" member) (field "other" member)

/-- The comparison of all members; a body without it has no value. -/
def comparison : List String → List Doc
  | [] => []
  | first :: rest =>
    result [rest.foldl (fun left member => binary "&&" left (fieldsEqual member))
      (fieldsEqual first)]

/-- The comparison with a value of any type: it has to be of this type, and equal. -/
def dynamicComparison : List Doc :=
  result
    [stack Layout.indent
      ([stack (-Layout.indent) [.text "other"], .gap .empty,
        .text ".downcast_ref::<Self>", stack 0 (call Layout.indent []), .gap .empty,
        .text ".is_some_and",
        stack 0 (call Layout.indent
          [[.text "|other| ::core::cmp::PartialEq::eq(self, other)"]])])]

/-! ## Items -/

/-- A function in an impl. The signature is the text up to its parameters. -/
def function (signature : String) (parameters : List (List Doc)) (output : String)
    (body : List Doc) : List Doc :=
  let output := if output.isEmpty then [] else [.text (" -> " ++ output)]
  [stack Layout.indent
    ([.text (signature ++ "("), .gap .solidEmpty, Doc.items 0 parameters, .text ")",
      stack (-Layout.indent) output, .text " \x7b", .gap .optionalLineEnd] ++ closing body),
    .text "\x7d", .gap .lineEnd]

def implementation (parameters : Parameters) (implemented self : List Doc) (predicates : Predicates)
    (body : List Doc) : List Doc :=
  [stack Layout.indent
    ([fill (-Layout.indent)
        ([stack Layout.indent (.text "impl" :: parameters.phrase.layout), .text " "] ++
          implemented ++ [.gap .blank, .text "for "] ++ self)] ++
      predicates.beforeBody.layout ++ [.text "\x7b", .gap .optionalLineEnd] ++ closing body),
    .text "\x7d", .gap .lineEnd]

/-- Items that are evaluated in a scope of their own, where `imported` can be named. -/
def enclosed (imported : String) (items : List Doc) : List Doc :=
  [stack 0
    [.text "const _: () = ", .gap .solidEmpty,
      stack Layout.indent
        ([.text "\x7b", .gap .blank, .text s!"use {imported};", .gap .lineEnd] ++
          closing items ++ [.text "\x7d"]),
      .text ";"],
    .gap .lineEnd]

end Template

/-! ## Headers -/

/-- Items with one more behind them, and a separator in front of it unless one is there already. -/
def pushed (separator : Char) (list item : List Tree) : List Tree :=
  if list.isEmpty || endsWithMark separator list then list ++ item
  else list ++ Tree.ofOperator (String.singleton separator) ++ item

/-- A parameter as an impl declares it: without a default and, if it is a type, with one more
bound. -/
def declaredTokens (bound : Bound) : Parameter → List Tree
  | .lifetime attributes name bounds trailing =>
    (Parameter.lifetime attributes name bounds trailing).phrase.tokens
  | .type attributes name bounds trailing _ =>
    (attributes ++ .ofName name ++ .mark ":").tokens ++
      pushed '+' (Phrase.brokenPlusSeparated (boundPhrases bounds) trailing).tokens
        bound.phrase.tokens
  | .constant attributes name ty _ => (Parameter.constant attributes name ty none).phrase.tokens

def argumentTokens : Parameter → List Tree
  | .lifetime _ name _ _ => (Phrase.ofLifetime name).tokens
  | .type _ name _ _ _ => (Phrase.ofName name).tokens
  | .constant _ name _ _ => (Phrase.ofName name).tokens

def angledTokens (parameters : Parameters) (tokens : Parameter → List Tree) : List Tree :=
  if parameters.list.isEmpty then []
  else
    Tree.ofOperator "<" ++ separated comma parameters.trailing (parameters.list.map tokens) ++
      Tree.ofOperator ">"

def traitBound (names : List String) : Bound :=
  .trait false none false (.mk true (names.map fun name => .plain (.plain name)))

/-- A predicate that asks for a value that borrows from nothing. -/
def staticSelf : Predicate :=
  .type none (.path (.ofName (.plain "Self"))) [.lifetime (.plain "static")] false

def clauseTokens (predicates : Predicates) : Option Predicate → List Tree
  | none => predicates.beforeBody.tokens
  | some predicate =>
    if predicates.list.isEmpty then (Phrase.word "where" ++ predicate.phrase).tokens
    else pushed ',' (Tree.settledAll predicates.beforeBody.tokens) predicate.phrase.tokens

/-- What tells the impls of a struct apart. The struct's type is known as it is laid out. -/
structure Impl where
  /-- What every type parameter has to be. -/
  bound : Bound
  /-- What is asked for besides the struct's own predicates. -/
  predicate : Option Predicate
  implemented : (self : List Doc) → List Doc
  body : (self : List Doc) → List Doc

/-- What stands in front of the body of an impl. -/
structure Header where
  parameters : Parameters
  self : Ty
  predicates : Predicates

namespace Header

/-- Whether parameters can follow the word `impl`, where a type in angle brackets could follow as
well: a first parameter that goes unnamed would be taken for one. -/
def opensImpl (parameters : Parameters) : Bool :=
  match parameters.list with
  | .type attributes name _ _ _ :: _ => !attributes.tokens.isEmpty || !name.isWord "_"
  | _ => true

def read? (parameters self predicates : List Tree) : Option Header := do
  let parameters ← parseTrees? Rules.parameters (Tree.settledAll parameters)
  let self ← parseTrees? (fun rules => rules.type true) (Tree.settledAll self)
  let predicates ← parseTrees? Rules.predicates (Tree.settledAll predicates)
  if opensImpl parameters then return ⟨parameters, self, predicates⟩ else none

def isPrintable (header : Header) : Bool :=
  header.self.phrase.printable && header.parameters.phrase.printable &&
    header.predicates.beforeBody.printable

end Header

namespace Impl

def header? (impl : Impl) (blueprint : Blueprint) : Option Header :=
  Header.read? (angledTokens blueprint.parameters (declaredTokens impl.bound))
    ((Phrase.ofName blueprint.name).tokens ++ angledTokens blueprint.parameters argumentTokens)
    (clauseTokens blueprint.predicates impl.predicate)

def layout (impl : Impl) (header : Header) : List Doc :=
  let self := header.self.phrase.layout
  Template.implementation header.parameters (impl.implemented self) self header.predicates
    (impl.body self)

/-! ## Impls -/

variable (members : List String)

def serializable : Impl where
  bound := traitBound ["autoser", "Serializable"]
  predicate := none
  implemented _ := [.text "::autoser::Serializable"]
  body _ := Template.function "fn serialize<__S: ::autoser::Serializer>"
    [[.text "&mut self"], [.text "serializer: &mut __S"]]
    "::core::result::Result<(), __S::Error>"
    (members.flatMap Template.serializeField ++
      Template.result [.text "::core::result::Result::Ok(())"])

def partialEq : Impl where
  bound := traitBound ["core", "cmp", "PartialEq"]
  predicate := none
  implemented self := [.text "::core::cmp::PartialEq<", Doc.items Layout.indent [self], .text ">"]
  body self := Template.function "fn eq" [[.text "&self"], .text "other: &" :: self] "bool"
    (Template.comparison members)

def dynEq : Impl where
  bound := traitBound ["core", "cmp", "PartialEq"]
  predicate := some staticSelf
  implemented _ := [.text "::autoser::DynEq"]
  body _ := Template.function "fn dyn_eq"
    [[.text "&self"], [.text "other: &dyn ::core::any::Any"]] "bool" Template.dynamicComparison

def hash : Impl where
  bound := traitBound ["autoser", "HashField"]
  predicate := none
  implemented _ := [.text "::core::hash::Hash"]
  body _ := Template.function "fn hash<__H: ::core::hash::Hasher>"
    [[.text "&self"], [.text "state: &mut __H"]] "" (members.flatMap Template.hashField)

def hashField : Impl where
  bound := traitBound ["autoser", "HashField"]
  predicate := none
  implemented _ := [.text "::autoser::HashField"]
  body _ := Template.function "fn hash_field<__H: ::core::hash::Hasher>"
    [[.text "&self"], [.text "state: &mut __H"]] ""
    (Template.statement [.text "::core::hash::Hash::hash(self, state)"])

end Impl

/-! ## Fragments -/

/-- The name that stands for a module in generated text: keywords become raw. -/
def moduleName? (module : String) : Option Name :=
  (parseName? module).or (Name.ofSpelling? ("r#" ++ module))

namespace Blueprint

variable (blueprint : Blueprint)

def impls : List Impl :=
  .serializable blueprint.members ::
    if blueprint.equality then
      [.partialEq blueprint.members, .dynEq, .hash blueprint.members, .hashField]
    else []

def isImportable (name : Name) : Bool :=
  (parseTrees? (fun _ => Rules.useTree 1 false) (Phrase.ofName name).tokens).isSome

/-- The text of the fragment. The generated impls stand at the crate root: a struct in a module is
imported for them, which must not be visible from anywhere else. -/
def code (modules : List Name) : Except FragmentError String :=
  match blueprint.impls.mapM fun impl => impl.header? blueprint with
  | none => .error (.invalidCode blueprint.name.spelling)
  | some headers =>
    if !modules.isEmpty && !isImportable blueprint.name then
      .error (.invalidCode blueprint.name.spelling)
    else if !headers.all Header.isPrintable then
      .error (.unprintableCode blueprint.name.spelling)
    else
      let impls := (blueprint.impls.zipWith Impl.layout headers).flatten
      if modules.isEmpty then .ok (generatedHeader ++ textOf impls)
      else
        let path := "crate" :: (modules ++ [blueprint.name]).map Name.spelling
        .ok (generatedHeader ++ textOf (Template.enclosed ("::".intercalate path) impls))

def moduleNames : List String → Except FragmentError (List Name)
  | [] => .ok []
  | head :: tail =>
    match moduleName? head with
    | some name => (moduleNames tail).map (name :: ·)
    | none => .error (.unnamableModule head)

def fragment : Except FragmentError Fragment := do
  let modules ← moduleNames blueprint.modules
  return ⟨blueprint.fileName, ← blueprint.code modules⟩

end Blueprint

/-! ## Index -/

/-- The declaration that includes a file. Its name moves to a line of its own if that is needed for
the line to fit. -/
def includeLines (fileName : String) : String :=
  textOf [.text "include!(", stack Layout.indent
    [.gap .empty, fill 0 [.text (sourceQuoted fileName)], .gap Gap.empty.outward], .text ");",
    .gap .lineEnd]

/-- The file that includes all fragments, by name. -/
def indexFor (names : List String) : Fragment :=
  ⟨indexFileName, generatedHeader ++ String.join ((sortedOnce names).map includeLines)⟩

end Wireform.Generation
