import Wireform.Text.Identifier

namespace Wireform.Syntax

/-! Names as they are written in a source text. -/

/-- A word of a source text. A `raw` name is written with `r#` in front, which lets a keyword serve
as a name; the text goes without that mark. -/
structure Name where
  raw : Bool
  text : String
  deriving DecidableEq, Repr, Inhabited

/-- Words that name nothing unless they are raw. -/
def keywords : List String :=
  ["_", "abstract", "as", "async", "await", "become", "box", "break", "const", "continue", "crate",
    "do", "dyn", "else", "enum", "extern", "false", "final", "fn", "for", "if", "impl", "in",
    "let", "loop", "macro", "match", "mod", "move", "mut", "override", "priv", "pub", "ref",
    "return", "Self", "self", "static", "struct", "super", "trait", "true", "try", "type",
    "typeof", "unsafe", "unsized", "use", "virtual", "where", "while", "yield"]

/-- Words that stay what they are: they have no raw form. -/
def unescapableWords : List String := ["_", "super", "self", "Self", "crate"]

namespace Name

def plain (text : String) : Name := ⟨false, text⟩

def spelling (name : Name) : String := if name.raw then "r#" ++ name.text else name.text

/-- Whether the word is this keyword. A raw name is none. -/
def isWord (name : Name) (word : String) : Bool := !name.raw && name.text == word

def isFree (name : Name) : Bool :=
  !(if name.raw then unescapableWords else keywords).contains name.text

def ofSpelling? (spelling : String) : Option Name :=
  match spelling.toList with
  | 'r' :: '#' :: rest =>
    if Text.isIdentifierText rest && !unescapableWords.contains (String.ofList rest) then
      some ⟨true, String.ofList rest⟩
    else none
  | letters => if Text.isIdentifierText letters then some (plain spelling) else none

example : ofSpelling? "r#type" = some ⟨true, "type"⟩ := by decide
example : ofSpelling? "r#self" = none := by decide
example : (plain "type").isFree = false := by decide

end Name

end Wireform.Syntax
