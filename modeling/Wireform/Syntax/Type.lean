import Wireform.Syntax.Phrase

namespace Wireform.Syntax

/-! # Types

Types, paths and bounds. They contain one another: an argument of a path can be a type, and a type a
path. What nothing ever looks into, such as the length of an array, is kept as a phrase. -/

mutual
inductive Ty where
  | path (path : Path)
  | projection (projection : Projection)
  | grouped (inner : Ty)
  | array (item : Ty) (length : Phrase)
  | slice (item : Ty)
  | tuple (items : List Ty) (trailing : Bool)
  | reference (lifetime : Option Name) (mutable : Bool) (target : Ty)
  | pointer (mutable : Bool) (target : Ty)
  | never
  | inferred
  /-- A function pointer; `header` is what stands between the binder and the parameters, and
  `variadic` the dots that stand for any further parameters. -/
  | function (binder : Option Binder) (header : Phrase) (inputs : List Input) (trailing : Bool)
      (variadic : Option Phrase) (output : Option Ty)
  /-- A trait object, with or without its `marker` word in front. -/
  | object (marked : Bool) (bounds : List Bound) (trailing : Bool)
  | existential (bounds : List Bound) (trailing : Bool)
  | invocation (written : Phrase)
  | verbatim (tokens : List Tree)

inductive Input where
  | mk (attributes : Phrase) (name : Option Name) (ty : Ty)

/-- A path that starts at a type: `<T as Trait>::Item`, with the trait if it is named. -/
inductive Projection where
  | mk (self : Ty) (anchor : Option Path) (rest : List Segment)

/-- A path. A global path starts with a separator. -/
inductive Path where
  | mk (global : Bool) (segments : List Segment)

inductive Segment where
  | mk (name : Name) (arguments : Arguments)

inductive Arguments where
  | none
  /-- Arguments in angle brackets, lifetimes first; a `marked` list has a separator in front. -/
  | angled (marked : Bool) (arguments : List Argument) (trailing : Bool)
  | called (inputs : List Ty) (trailing : Bool) (output : Option Ty)

inductive Argument where
  | lifetime (name : Name)
  | type (ty : Ty)
  | constant (value : Phrase)
  | equalType (name : Name) (arguments : Arguments) (ty : Ty)
  | equalConstant (name : Name) (arguments : Arguments) (value : Phrase)
  | bounded (name : Name) (arguments : Arguments) (bounds : List Bound) (trailing : Bool)

inductive Bound where
  | lifetime (name : Name)
  /-- A trait, possibly in parentheses, with the parameters it is stated for and a mark that
  takes the bound back instead of asking for it. -/
  | trait (grouped : Bool) (binder : Option Binder) (relaxed : Bool) (path : Path)
  /-- The parameters that a type may depend on. -/
  | captured (written : Phrase)
  | verbatim (tokens : List Tree)

/-- The parameters that a bound or a function pointer is stated for. -/
inductive Binder where
  | mk (parameters : List Parameter) (trailing : Bool)

inductive Parameter where
  | lifetime (attributes : Phrase) (name : Name) (bounds : List Name) (trailing : Bool)
  | type (attributes : Phrase) (name : Name) (bounds : List Bound) (trailing : Bool)
      (default : Option Ty)
  | constant (attributes : Phrase) (name : Name) (ty : Ty) (default : Option Phrase)
end

instance : Inhabited Path := ⟨.mk false []⟩
instance : Inhabited Ty := ⟨.inferred⟩

namespace Segment

def name : Segment → Name
  | .mk name _ => name

def arguments : Segment → Arguments
  | .mk _ arguments => arguments

def plain (name : Name) : Segment := .mk name .none

end Segment

namespace Arguments

def isNone : Arguments → Bool
  | .none => true
  | _ => false

/-- Whether there are neither parentheses nor anything in angle brackets. -/
def isEmpty : Arguments → Bool
  | .none => true
  | .angled _ arguments _ => arguments.isEmpty
  | .called _ _ _ => false

end Arguments

namespace Path

def global : Path → Bool
  | .mk global _ => global

def segments : Path → List Segment
  | .mk _ segments => segments

def names (path : Path) : List Name := path.segments.map Segment.name

def ofName (name : Name) : Path := .mk false [.plain name]

def name? : Path → Option Name
  | .mk false [.mk name .none] => some name
  | _ => none

/-- Whether the path is exactly this name, written without a raw mark. -/
def isName (path : Path) (text : String) : Bool :=
  match path.name? with
  | some name => name.spelling == text
  | none => false

def isPlain (path : Path) : Bool := path.segments.all fun segment => segment.arguments.isNone

def last? (path : Path) : Option Name := path.names.getLast?

def plainText (path : Path) : String :=
  (if path.global then "::" else "") ++ String.intercalate "::" (path.names.map Name.spelling)

end Path

end Wireform.Syntax
