import Wireform.Syntax.Type

/-! # Types as phrases

How types, paths, bounds and parameters are written. Their tokens are those they were read from,
except that lifetimes come before other arguments and an empty list of bounds loses its colon. -/

namespace Wireform.Syntax

open Wireform.Text Phrase

/-- The separator in front of arguments. A layout has it where an angle bracket could be taken for
a comparison. -/
def argumentSeparator (marked inExpression : Bool) : Phrase :=
  ⟨if marked then Tree.ofOperator "::" else [], if inExpression then [.text "::"] else [], true⟩

/-- Parameters of a function, behind which dots can stand for any others. -/
def functionInputs (shift : Int) (inputs : List Phrase) (trailing : Bool)
    (variadic : Option Phrase) : Phrase :=
  match variadic with
  | none => items shift inputs trailing
  | some dots =>
    Phrase.stack shift
      (concat (gap .empty :: inputs.map (fun input => concat [input, mark ",", gap .blank]) ++
        [dots, gap Gap.empty.outward]))

mutual
def Ty.phrase : Ty → Phrase
  | .path path => path.phrase false
  | .projection projection => projection.phrase false
  | .grouped inner => inParentheses inner.phrase
  | .array item length => inBrackets (concat [item.phrase, spacedMark ";" "; ", length])
  | .slice item => inBrackets item.phrase
  | .tuple items trailing =>
    match typePhrases items with
    | [only] => inParentheses (single only)
    | phrases => inParentheses (Phrase.items Layout.indent phrases trailing)
  | .reference lifetime mutable target =>
    let lifetime := match lifetime with
      | some name => ofLifetime name ++ blank
      | none => empty
    let mutability := if mutable then spacedWord "mut" else empty
    concat [mark "&", lifetime, mutability, target.phrase]
  | .pointer mutable target =>
    concat [mark "*", spacedWord (if mutable then "mut" else "const"), target.phrase]
  | .never => mark "!"
  | .inferred => word "_"
  | .function binder header inputs trailing variadic output =>
    concat [optionalBinderPhrase binder, header,
      inParentheses (functionInputs Layout.indent (inputPhrases inputs) trailing variadic),
      outputPhrase output]
  | .object marked bounds trailing =>
    let marker := if marked then spacedWord "dyn" else shown [.text "dyn "]
    marker ++ Phrase.plusSeparated (boundPhrases bounds) trailing
  | .existential bounds trailing =>
    spacedWord "impl" ++ Phrase.plusSeparated (boundPhrases bounds) trailing
  | .invocation written => written
  | .verbatim tokens => unprintable tokens

def Projection.phrase (projection : Projection) (inExpression : Bool) : Phrase :=
  match projection with
  | .mk self anchor rest =>
    let anchor := match anchor with
      | some path => concat [blank, spacedWord "as", path.phrase false]
      | none => empty
    concat [mark "<", self.phrase, anchor, mark ">", segmentsPhrase inExpression true rest]

def outputPhrase : Option Ty → Phrase
  | none => empty
  | some ty => spacedMark "->" " -> " ++ ty.phrase

def inputPhrases : List Input → List Phrase
  | [] => []
  | .mk attributes none ty :: tail => (attributes ++ ty.phrase) :: inputPhrases tail
  | .mk attributes (some name) ty :: tail =>
    concat [attributes, ofName name, spacedMark ":" ": ", ty.phrase] :: inputPhrases tail

def typePhrases : List Ty → List Phrase
  | [] => []
  | head :: tail => head.phrase :: typePhrases tail

/-- A path. In an expression there is a separator in front of arguments. -/
def Path.phrase (path : Path) (inExpression : Bool) : Phrase :=
  match path with
  | .mk global segments => segmentsPhrase inExpression global segments

/-- Segments, with a separator before the first one if it is `continued`. -/
def segmentsPhrase (inExpression continued : Bool) : List Segment → Phrase
  | [] => empty
  | .mk name arguments :: tail =>
    concat [if continued then mark "::" else empty, ofName name, arguments.phrase inExpression,
      segmentsPhrase inExpression true tail]

def Arguments.phrase (arguments : Arguments) (inExpression : Bool) : Phrase :=
  match arguments with
  | .none => empty
  | .angled marked arguments trailing =>
    match argumentPhrases arguments with
    | [] => unseen ((argumentSeparator marked false).tokens ++ Tree.ofOperator "<" ++
        Tree.ofOperator ">")
    | phrases =>
      concat [argumentSeparator marked inExpression, mark "<",
        Phrase.items Layout.indent phrases trailing, mark ">"]
  | .called inputs trailing output =>
    Phrase.stack Layout.indent
      (inParentheses (closing (gap .empty ++
        commaSeparated .afterLast trailing (typePhrases inputs))) ++ outputPhrase output)

def Argument.phrase : Argument → Phrase
  | .lifetime name => ofLifetime name
  | .type ty => ty.phrase
  | .constant value => value
  | .equalType name arguments ty =>
    concat [ofName name, arguments.phrase false, spacedMark "=" " = ", ty.phrase]
  | .equalConstant name arguments value =>
    concat [ofName name, arguments.phrase false, spacedMark "=" " = ", value]
  | .bounded name arguments bounds trailing =>
    let bounds := match boundPhrases bounds with
      | [] => unseen (Tree.ofOperator ":")
      | phrases => spacedMark ":" ": " ++ brokenPlusSeparated phrases trailing
    concat [ofName name, arguments.phrase false, Phrase.fill Layout.indent bounds]

def argumentPhrases : List Argument → List Phrase
  | [] => []
  | head :: tail => head.phrase :: argumentPhrases tail

def Bound.phrase : Bound → Phrase
  | .lifetime name => ofLifetime name
  | .trait grouped binder relaxed path =>
    let body := concat [optionalBinderPhrase binder, if relaxed then mark "?" else empty,
      path.phrase false]
    if grouped then inParentheses body else body
  | .captured written => written
  | .verbatim tokens => unprintable tokens

def boundPhrases : List Bound → List Phrase
  | [] => []
  | head :: tail => head.phrase :: boundPhrases tail

def Binder.phrase : Binder → Phrase
  | .mk parameters trailing =>
    concat [word "for", mark "<", joined (spacedMark "," ", ") (parameterPhrases parameters),
      trailingMark "," (trailing && !parameters.isEmpty), spacedMark ">" "> "]

def optionalBinderPhrase : Option Binder → Phrase
  | none => empty
  | some binder => binder.phrase

def Parameter.phrase : Parameter → Phrase
  | .lifetime attributes name bounds trailing =>
    let bounds := match bounds with
      | [] => empty
      | bounds => spacedMark ":" ": " ++ Phrase.plusSeparated (bounds.map ofLifetime) trailing
    concat [attributes, ofLifetime name, bounds]
  | .type attributes name bounds trailing default =>
    let bounds := match boundPhrases bounds with
      | [] => empty
      | phrases => spacedMark ":" ": " ++ brokenPlusSeparated phrases trailing
    let default := match default with
      | some ty => concat [gap .blank, spacedMark "=" "= ", ty.phrase]
      | none => empty
    concat [attributes, ofName name, Phrase.fill Layout.indent (bounds ++ default)]
  | .constant attributes name ty default =>
    let default := match default with
      | some value => spacedMark "=" " = " ++ value
      | none => empty
    concat [attributes, spacedWord "const", ofName name, spacedMark ":" ": ", ty.phrase, default]

def parameterPhrases : List Parameter → List Phrase
  | [] => []
  | head :: tail => head.phrase :: parameterPhrases tail
end

def Path.compactText (path : Path) : String :=
  String.ofList ((Tree.textList (path.phrase false).tokens).toList.filter (· ≠ ' '))

end Wireform.Syntax
