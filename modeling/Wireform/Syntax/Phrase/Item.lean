import Wireform.Syntax.Item
import Wireform.Syntax.Phrase.Block
import Wireform.Syntax.Phrase.Invocation
import Wireform.Syntax.Phrase.Pattern

/-! # Items as phrases

How declarations are written. An item with a body is one box from its first word to the last line
of its body, so that a where clause and the body are indented alike. Every item ends with a line
end. -/

namespace Wireform.Syntax

open Wireform.Text Phrase

structure ItemPhrase where
  item : Item
  written : Phrase
  deriving Inhabited

def Visibility.phrase : Visibility → Phrase
  | .inherited => empty
  | .everywhere => spacedWord "pub"
  | .restricted spelledOut path =>
    let word := if spelledOut then word "in" else empty
    let tokens := [Tree.ofWord "pub", .inParentheses (word ++ path.phrase false).tokens]
    let isPlace := ["self", "super", "crate"].any path.isName
    ⟨tokens, .text (if isPlace then "pub(" else "pub(in ") :: (path.phrase false).layout ++
      [.text ") "], true⟩

namespace Written

/-! ## Parts -/

def words (list : List (Bool × String)) : Phrase :=
  concat (list.map fun (present, text) => if present then spacedWord text else empty)

def convention (name : Option Literal) : Phrase :=
  spacedWord "extern" ++ ofOption (name.map fun name => ofLiteral name ++ blank)

def withBody (head lines : Phrase) : Phrase :=
  ⟨head.tokens ++ [.group .brace lines.tokens .start],
    [Doc.stack Layout.indent (head.layout ++ .text "\x7b" :: lines.layout), .text "\x7d",
      .gap .lineEnd],
    head.printable && lines.printable⟩

def members (attributes : Phrase) (list : List Phrase) : Phrase :=
  closing (concat (gap .optionalLineEnd :: attributes :: list))

def listedMembers (list : List Phrase) (trailing : Bool) : Phrase :=
  let separate := list.map fun member => concat [member, shown [.text ","], lineEnd]
  ⟨Phrase.separatedTokens list trailing, (members empty separate).layout,
    list.all Phrase.printable⟩

def withoutBody (shift : Int) (content : Phrase) : Phrase := stack shift content ++ lineEnd

def field (attributes visibility : Phrase) (name : Option Name) (ty : Ty) : Phrase :=
  concat [attributes, visibility,
    ofOption (name.map fun name => ofName name ++ spacedMark ":" ": "), ty.phrase]

/-- Fields without names, indented by the box around them. -/
def tupleFields (fields : List Phrase) (trailing : Bool) : Phrase :=
  inParentheses (closing (gap .empty ++ commaSeparated .afterLast trailing fields))

def boundsAfterColon (between : Phrase) (bounds : List Bound) (trailing : Bool) : Phrase :=
  match bounds with
  | [] => empty
  | bounds =>
    concat [spacedMark ":" ": ", joined between (bounds.map Bound.phrase),
      trailingMark "+" trailing]

/-! ## Functions -/

def receiver (reference : Bool) (lifetime : Option Name) (mutable : Bool) (ty : Option Ty) :
    Phrase :=
  concat [if reference then mark "&" else empty,
    ofOption (lifetime.map fun name => ofLifetime name ++ blank), words [(mutable, "mut")],
    word "self", ofOption (ty.map fun ty => spacedMark ":" ": " ++ ty.phrase)]

/-- A function up to its where clause. The words end with that of the function. -/
def signature (words : Phrase) (name : Name) (parameters : Parameters) (inputs : List Phrase)
    (trailing : Bool) (variadic : Option Phrase) (output : Option Ty) : Phrase :=
  concat [words, ofName name, parameters.phrase,
    inParentheses (gap .solidEmpty ++ functionInputs 0 inputs trailing variadic),
    stack (-Layout.indent) (outputPhrase output)]

def function (head : Phrase) (predicates : Predicates) (body : Option Block) : Phrase :=
  match body with
  | some block => withBody (head ++ predicates.beforeBody) block.lines
  | none => withoutBody Layout.indent (head ++ predicates.beforeSemicolon)

/-! ## Values and types -/

/-- A constant or a variable of the program. The words end with its keyword. -/
def value (shift : Int) (words : Phrase) (name : Name) (parameters : Phrase) (ty : Ty)
    (value : Option ExprPhrase) : Phrase :=
  let value := value.map fun value =>
    concat [spacedMark "=" " = ", gap .solidEmpty, value.phrase]
  withoutBody shift (concat [words, ofName name, parameters, spacedMark ":" ": ", ty.phrase,
    ofOption value, mark ";"])

def definition (equals : Phrase) (ty : Ty) : Phrase :=
  concat [equals, gap .solidEmpty, fill (-Layout.indent) ty.phrase]

def typeAlias (visibility : Phrase) (name : Name) (parameters : Parameters)
    (predicates : Predicates) (ty : Ty) : Phrase :=
  withoutBody Layout.indent (concat [visibility, spacedWord "type", ofName name,
    parameters.phrase, predicates.beforeDefinition, definition (spacedMark "=" "= ") ty, mark ";"])

def associatedType (words : Phrase) (name : Name) (parameters : Parameters) (bounds : Phrase)
    (ty : Option Ty) (predicates : Predicates) : Phrase :=
  withoutBody Layout.indent (concat [words, spacedWord "type", ofName name, parameters.phrase,
    bounds, ofOption (ty.map (definition (spacedMark "=" " = "))), predicates.afterDefinition])

def foreignType (visibility : Phrase) (name : Name) (parameters : Parameters)
    (predicates : Predicates) : Phrase :=
  withoutBody 0 (concat [visibility, spacedWord "type", ofName name, parameters.phrase,
    unseen predicates.beforeBody.tokens, mark ";"])

/-! ## Structs, enumerations and unions -/

def named (visibility : Phrase) (keyword : String) (name : Name) (parameters : Parameters) :
    Phrase :=
  concat [visibility, spacedWord keyword, ofName name, parameters.phrase]

/-- A struct with named fields, or a union. -/
def record (head : Phrase) (predicates : Predicates) (fields : List Phrase) (trailing : Bool) :
    Phrase :=
  withBody (head ++ predicates.beforeBody) (listedMembers fields trailing)

def tupleStruct (head : Phrase) (fields : List Phrase) (trailing : Bool)
    (predicates : Predicates) : Phrase :=
  withoutBody Layout.indent
    (concat [head, tupleFields fields trailing, predicates.beforeSemicolon])

def unitStruct (head : Phrase) (predicates : Predicates) : Phrase :=
  withoutBody Layout.indent (head ++ predicates.beforeSemicolon)

inductive VariantFields where
  | none
  | named (fields : List Phrase) (trailing : Bool)
  | tuple (fields : List Phrase) (trailing : Bool)

def variant (head : Phrase) (fields : VariantFields) (number : Option ExprPhrase) : Phrase :=
  let fields := match fields with
    | .none => empty
    | .named fields trailing =>
      let content := gap .blank ++ commaSeparated .blankAfterLast trailing fields
      blank ++ inBraces (stack Layout.indent (closing content))
    | .tuple fields trailing => stack Layout.indent (tupleFields fields trailing)
  concat [head, fields,
    ofOption (number.map fun number => spacedMark "=" " = " ++ number.phrase)]

/-! ## Traits and implementations -/

def trait (head : Phrase) (bounds : List Bound) (trailing : Bool) (predicates : Predicates)
    (attributes : Phrase) (list : List Phrase) : Phrase :=
  withBody (concat [head, boundsAfterColon (spacedMark "+" " + ") bounds trailing,
    predicates.beforeBody]) (members attributes list)

def traitAlias (head : Phrase) (bounds : List Bound) (trailing : Bool)
    (predicates : Predicates) : Phrase :=
  let between := gap .blank ++ spacedMark "+" "+ "
  withoutBody Layout.indent (concat [head, spacedMark "=" " = ", gap .solidEmpty,
    joined between (bounds.map Bound.phrase),
    trailingMark "+" (trailing && !bounds.isEmpty), predicates.beforeSemicolon])

def implementation (words : Phrase) (parameters : Parameters) (implemented : Option Phrase)
    (self : Ty) (predicates : Predicates) (attributes : Phrase) (list : List Phrase) : Phrase :=
  let implemented := implemented.map fun implemented =>
    concat [implemented, gap .blank, spacedWord "for"]
  let opening := stack Layout.indent (concat [words, word "impl", parameters.phrase])
  let head := fill (-Layout.indent) (concat [opening, blank, ofOption implemented, self.phrase])
  withBody (head ++ predicates.beforeBody) (members attributes list)

def foreignModule (words : Phrase) (attributes : Phrase) (list : List Phrase) : Phrase :=
  withBody words (members attributes list)

/-! ## Modules and imports -/

def module (words : Phrase) (name : Name) (content : Option (Phrase × List Phrase)) : Phrase :=
  let head := concat [words, spacedWord "mod", ofName name]
  match content with
  | some (attributes, list) => withBody (head ++ blank) (members attributes list)
  | none => withoutBody Layout.indent (head ++ mark ";")

def externalCrate (visibility : Phrase) (name : Name) (newName : Option Name) : Phrase :=
  concat [visibility, spacedWord "extern", spacedWord "crate", ofName name,
    ofOption (newName.map fun newName => concat [blank, spacedWord "as", ofName newName]),
    mark ";", lineEnd]

/-- A tree of a use declaration, and whether it ends in a group. -/
structure UsePhrase where
  written : Phrase
  endsInGroup : Bool
  deriving Inhabited

/-- Trees in braces. They fill lines, but a group ends its line. -/
def useGroup (trees : List UsePhrase) (trailing : Bool) : UsePhrase :=
  let content := concat [gap .empty, fill 0 (separate trees), trailingMark "," trailing,
    gap Gap.afterLast.outward]
  ⟨inBraces (stack Layout.indent content), true⟩
where
  separate : List UsePhrase → Phrase
    | [] => empty
    | [last] => last.written
    | head :: tail =>
      let between := if head.endsInGroup then lineEnd else gap .blank
      concat [head.written, mark ",", between, separate tail]

def useDeclaration (visibility : Phrase) (global : Bool) (tree : UsePhrase) : Phrase :=
  concat [visibility, spacedWord "use", if global then mark "::" else empty, tree.written,
    mark ";", lineEnd]

def invocation (written : Phrase) (delimiter : Delimiter) : Phrase :=
  concat [written, if delimiter = .brace then empty else mark ";", lineEnd]

end Written

end Wireform.Syntax
