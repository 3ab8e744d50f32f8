namespace Wireform.Text

/-! # Texts

Sets of characters, the blanks among them, places in a text, and the order of texts. -/

/-- A set of characters given by inclusive ranges of scalar values. -/
abbrev CharacterRanges := List (Nat × Nat)

def CharacterRanges.contains (ranges : CharacterRanges) (character : Char) : Bool :=
  ranges.any fun (first, last) => first ≤ character.toNat && character.toNat ≤ last

/-! ## Blanks -/

/-- The characters with the Unicode property `White_Space`. -/
def isWhiteSpace (character : Char) : Bool :=
  let value := character.toNat
  value = 0x20 || (0x09 ≤ value && value ≤ 0x0d) || value = 0x85 || value = 0xa0 ||
    value = 0x1680 || (0x2000 ≤ value && value ≤ 0x200a) || value = 0x2028 ||
    value = 0x2029 || value = 0x202f || value = 0x205f || value = 0x3000

/-- White space, and the two marks that only set the direction of the text around them. -/
def isBlank (character : Char) : Bool :=
  isWhiteSpace character || character = '\u200e' || character = '\u200f'

/-- A byte order mark, which carries no text. -/
def byteOrderMark : Char := '\ufeff'

def dropByteOrderMark : List Char → List Char
  | first :: rest => if first = byteOrderMark then rest else first :: rest
  | [] => []

/-! ## Places -/

/-- A line and a column, both counted from one. A column is one character wide whatever the
character is, and a line ends with its line feed. -/
structure Position where
  line : Nat
  column : Nat
  deriving DecidableEq, Repr, Inhabited

namespace Position

def start : Position := ⟨1, 1⟩

def after (position : Position) (character : Char) : Position :=
  if character = '\n' then ⟨position.line + 1, 1⟩ else ⟨position.line, position.column + 1⟩

def advance (position : Position) (text : List Char) : Position := text.foldl after position

example : start.advance ['a', '\n', 'b'] = ⟨2, 2⟩ := rfl

end Position

/-! ## Order

Texts in the order of their characters, which is also the order of their bytes in UTF-8. -/

def sorted (texts : List String) : List String :=
  texts.mergeSort fun left right => left ≤ right

def sortedOnce (texts : List String) : List String := (sorted texts).eraseReps

example : sortedOnce ["b", "a", "B", "a"] = ["B", "a", "b"] := by cbv

end Wireform.Text
