import Wireform.Text.Basic
import Wireform.Text.Identifier

namespace Wireform.Syntax

/-! Literals: how many characters one takes at the front of a text, and what it stands for. Every
measure counts characters, so that a lexeme is a `take` and the rest of the text is a `drop`. -/

open Wireform.Text

inductive LiteralKind where
  | text
  | bytes
  | terminatedText
  | byte
  | character
  | integer
  | float
  /-- A comment in parentheses that stands for a literal which could not be written. -/
  | placeholder
  deriving DecidableEq, Repr, Inhabited

/-- A literal as it is written, its suffix included. -/
structure Literal where
  kind : LiteralKind
  spelling : String
  deriving DecidableEq, Repr, Inhabited

/-! ## Words -/

/-- The length of the identifier at the front, zero if there is none. -/
def wordLength : List Char → Nat
  | [] => 0
  | first :: rest =>
    if startsIdentifier first then (rest.takeWhile continuesIdentifier).length + 1 else 0

/-- The length of a name at the front, with its raw mark if it has one. -/
def nameLength : List Char → Option Nat
  | 'r' :: '#' :: rest =>
    let word := wordLength rest
    if word = 0 then none else some (word + 2)
  | letters =>
    let word := wordLength letters
    if word = 0 then none else some word

/-! ## Quoted literals -/

structure Quoting where
  /-- Whether a character can stand for itself. -/
  admits : Char → Bool
  /-- Whether a two-digit escape can have this value. -/
  admitsHex : Nat → Bool
  /-- Whether an escape in braces can name this scalar value; `none` of them where it is `false`
  for all. -/
  admitsScalar : Nat → Bool
  /-- The characters that form an escape on their own. -/
  escapes : List Char

def isScalar (value : Nat) : Bool := value < 0xd800 || (0xdfff < value && value < 0x110000)

def Quoting.text : Quoting :=
  ⟨fun _ => true, (· < 0x80), isScalar, ['n', 'r', 't', '\\', '\'', '"', '0']⟩

def Quoting.bytes : Quoting :=
  ⟨fun character => character.toNat < 0x80, fun _ => true, fun _ => false,
    ['n', 'r', 't', '\\', '0', '\'', '"']⟩

/-- A text that ends with a zero byte holds none itself. -/
def Quoting.terminatedText : Quoting :=
  ⟨(· ≠ '\x00'), (· ≠ 0), fun value => isScalar value && value ≠ 0,
    ['n', 'r', 't', '\\', '\'', '"']⟩

def hexValue? (digit : Char) : Option Nat :=
  if digit.isDigit then some (digit.toNat - '0'.toNat)
  else if 'a' ≤ digit ∧ digit ≤ 'f' then some (digit.toNat - 'a'.toNat + 10)
  else if 'A' ≤ digit ∧ digit ≤ 'F' then some (digit.toNat - 'A'.toNat + 10)
  else none

inductive QuoteState where
  | plain
  /-- After a carriage return, which only a line feed can follow. -/
  | carriageReturn
  /-- After a backslash. -/
  | escape
  | hexFirst
  | hexSecond (high : Nat)
  | scalarOpen
  | scalar (digits value : Nat)
  /-- In the white space after an escaped line end. -/
  | continuation (afterReturn : Bool)
  deriving DecidableEq, Repr

namespace Quoting

/-- The next state, if the character is admitted. The closing quote is not for this function. -/
def stepPlain (quoting : Quoting) (character : Char) : Option QuoteState :=
  if character = '\r' then some .carriageReturn
  else if character = '\\' then some .escape
  else if quoting.admits character then some .plain
  else none

def step (quoting : Quoting) (state : QuoteState) (character : Char) : Option QuoteState :=
  match state with
  | .plain => quoting.stepPlain character
  | .carriageReturn => if character = '\n' then some .plain else none
  | .escape =>
    if character = 'x' then some .hexFirst
    else if character = 'u' then some .scalarOpen
    else if character = '\n' then some (.continuation false)
    else if character = '\r' then some (.continuation true)
    else if quoting.escapes.contains character then some .plain
    else none
  | .hexFirst => (hexValue? character).map .hexSecond
  | .hexSecond high => do
    let low ← hexValue? character
    if quoting.admitsHex (high * 16 + low) then some .plain else none
  | .scalarOpen => if character = '{' then some (.scalar 0 0) else none
  | .scalar digits value =>
    if character = '_' then if digits = 0 then none else some (.scalar digits value)
    else if character = '\x7d' then
      if digits ≠ 0 && quoting.admitsScalar value then some .plain else none
    else do
      let digit ← hexValue? character
      if digits = 6 then none else some (.scalar (digits + 1) (value * 16 + digit))
  | .continuation true => if character = '\n' then some (.continuation false) else none
  | .continuation false =>
    if character = ' ' ∨ character = '\t' ∨ character = '\n' then some (.continuation false)
    else if character = '\r' then some (.continuation true)
    else quoting.stepPlain character

def closes : QuoteState → Bool
  | .plain => true
  | .continuation false => true
  | _ => false

/-- The characters up to and with the closing quote of a string. -/
def closingLength (quoting : Quoting) : QuoteState → (count : Nat) → List Char → Option Nat
  | _, _, [] => none
  | state, count, character :: rest =>
    if character = '"' && closes state then some (count + 1)
    else do
      let next ← quoting.step state character
      quoting.closingLength next (count + 1) rest

/-- The length of one character or escape, without quotes. -/
def unitLength (quoting : Quoting) : QuoteState → (count : Nat) → List Char → Option Nat
  | _, _, [] => none
  | state, count, character :: rest => do
    let next ← quoting.step state character
    if next = .plain then some (count + 1) else quoting.unitLength next (count + 1) rest

end Quoting

/-- The characters of a raw string after its opening quote, up to and with its closing one and as
many number signs as it opened with. -/
def rawClosingLength (admits : Char → Bool) (signs : Nat) :
    (count : Nat) → List Char → Option Nat
  | _, [] => none
  | count, '"' :: rest =>
    if (rest.takeWhile (· = '#')).length ≥ signs then some (count + 1 + signs)
    else rawClosingLength admits signs (count + 1) rest
  | count, '\r' :: '\n' :: rest => rawClosingLength admits signs (count + 2) rest
  | count, character :: rest =>
    if character ≠ '\r' && admits character then rawClosingLength admits signs (count + 1) rest
    else none

def maxRawSigns : Nat := 255

/-- The length of a raw string whose letters are already read. -/
def rawLength (admits : Char → Bool) (letters : List Char) : Option Nat :=
  let signs := (letters.takeWhile (· = '#')).length
  match letters.drop signs with
  | '"' :: rest =>
    if signs ≤ maxRawSigns then rawClosingLength admits signs (signs + 1) rest else none
  | _ => none

/-- The length of the character or escape at the front of a quoted character. A line feed or a quote
can stand for itself here, but no line end can be escaped. -/
def Quoting.characterUnit (quoting : Quoting) : List Char → Option Nat
  | [] => none
  | '\\' :: '\n' :: _ => none
  | '\\' :: '\r' :: _ => none
  | '\\' :: rest => quoting.unitLength .escape 1 rest
  | character :: _ => if quoting.admits character then some 1 else none

/-- The length of a quoted character after its opening quote. -/
def characterLength (quoting : Quoting) (letters : List Char) : Option Nat :=
  (quoting.characterUnit letters).bind fun unit =>
    if (letters.drop unit).head? = some '\'' then some (unit + 1) else none

/-! ## Numbers -/

def isDigitOrUnderscore (character : Char) : Bool := character.isDigit || character = '_'

/-- Whether a sign and whether a digit stand in an exponent with one more character, unless the
exponent ends in front of it. -/
def exponentStep? (sign digit : Bool) (character : Char) : Option (Bool × Bool) :=
  if character = '+' ∨ character = '-' then if digit || sign then none else some (true, digit)
  else if character.isDigit then some (sign, true)
  else if character = '_' then some (sign, digit)
  else none

/-- The length of an exponent after its letter, if it has a digit. -/
def exponentLength : (sign digit : Bool) → (count : Nat) → List Char → Option Nat
  | _, digit, count, [] => if digit then some count else none
  | sign, digit, count, character :: rest =>
    match exponentStep? sign digit character with
    | some (sign, digit) => exponentLength sign digit (count + 1) rest
    | none => if digit then some count else none

/-- The length of the number after the point or the whole part of a float; `plain` is the length
that counts if no exponent follows. -/
def withExponentLength (count : Nat) (plain : Option Nat) : List Char → Option Nat
  | character :: rest =>
    if character = 'e' ∨ character = 'E' then
      (exponentLength false false (count + 1) rest).orElse fun _ => plain
    else plain
  | [] => plain

/-- The length of a float whose whole part is this long, in front of what follows that part. A point
that begins a range or a field access is not part of a number. -/
def fractionLength (whole : Nat) : List Char → Option Nat
  | '.' :: rest =>
    if rest.head?.any fun next => next = '.' || startsIdentifier next then none
    else
      let fraction := (rest.takeWhile isDigitOrUnderscore).length
      let count := whole + 1 + fraction
      withExponentLength count (some count) (rest.drop fraction)
  | rest => withExponentLength whole none rest

def floatDigitsLength (letters : List Char) : Option Nat :=
  if letters.head?.any Char.isDigit then
    let whole := (letters.takeWhile isDigitOrUnderscore).length
    fractionLength whole (letters.drop whole)
  else none

/-- The digits of a number with this base; none at all if a digit is too large for the base. -/
def digitsLength (base : Nat) : (count : Nat) → (digit : Bool) → List Char → Option Nat
  | count, digit, character :: rest =>
    if character.isDigit then
      if character.toNat - '0'.toNat < base then digitsLength base (count + 1) true rest else none
    else if character = '_' then
      if !digit && base = 10 then none else digitsLength base (count + 1) digit rest
    else
      match hexValue? character with
      | some value =>
        if value < base then digitsLength base (count + 1) true rest
        else if digit then some count else none
      | none => if digit then some count else none
  | count, digit, [] => if digit then some count else none

def integerDigitsLength : List Char → Option Nat
  | '0' :: 'x' :: rest => digitsLength 16 2 false rest
  | '0' :: 'o' :: rest => digitsLength 8 2 false rest
  | '0' :: 'b' :: rest => digitsLength 2 2 false rest
  | letters => digitsLength 10 0 false letters

/-- A number goes on with its suffix, after which no identifier can go on. -/
def withSuffixLength (letters : List Char) (digits : Nat) : Option Nat :=
  let total := digits + wordLength (letters.drop digits)
  if (letters.drop total).head?.any continuesIdentifier then none else some total

/-! ## All literals -/

def suffixed (letters : List Char) (length : Nat) : Nat :=
  length + wordLength (letters.drop length)

/-- The length of a literal that starts with `opening` characters and goes on as `body` says. -/
def openedLength (letters : List Char) (opening : Nat)
    (body : List Char → Option Nat) : Option Nat :=
  (body (letters.drop opening)).map fun length => suffixed letters (opening + length)

def numberLength (letters : List Char) : Option (LiteralKind × Nat) :=
  match (floatDigitsLength letters).bind (withSuffixLength letters) with
  | some length => some (.float, length)
  | none =>
    ((integerDigitsLength letters).bind (withSuffixLength letters)).map fun length =>
      (.integer, length)

/-- How a literal that could not be written is spelled. -/
def placeholderText : String := "(/*ERROR*/)"

def literalLength (letters : List Char) : Option (LiteralKind × Nat) :=
  let opened (kind : LiteralKind) (opening : Nat) (body : List Char → Option Nat) :=
    (openedLength letters opening body).map fun length => (kind, length)
  match letters with
  | '"' :: _ => opened .text 1 (Quoting.text.closingLength .plain 0)
  | 'r' :: _ => opened .text 1 (rawLength fun _ => true)
  | 'b' :: '"' :: _ => opened .bytes 2 (Quoting.bytes.closingLength .plain 0)
  | 'b' :: 'r' :: _ => opened .bytes 2 (rawLength Quoting.bytes.admits)
  | 'b' :: '\'' :: _ => opened .byte 2 (characterLength Quoting.bytes)
  | 'c' :: '"' :: _ => opened .terminatedText 2 (Quoting.terminatedText.closingLength .plain 0)
  | 'c' :: 'r' :: _ => opened .terminatedText 2 (rawLength Quoting.terminatedText.admits)
  | '\'' :: _ => opened .character 1 (characterLength Quoting.text)
  | '(' :: _ =>
    if placeholderText.toList.isPrefixOf letters then some (.placeholder, placeholderText.length)
    else none
  | _ => numberLength letters

/-! ## Values -/

def escapedCharacter : Char → Char
  | 'n' => '\n'
  | 'r' => '\r'
  | 't' => '\t'
  | '0' => '\x00'
  | character => character

/-- The text inside the quotes of a string, up to its closing quote. -/
def unescape : QuoteState → List Char → List Char
  | _, [] => []
  | state, character :: rest =>
    match state with
    | .plain =>
      if character = '"' then []
      else if character = '\r' then unescape .carriageReturn rest
      else if character = '\\' then unescape .escape rest
      else character :: unescape .plain rest
    | .carriageReturn => '\n' :: unescape .plain rest
    | .escape =>
      if character = 'x' then unescape .hexFirst rest
      else if character = 'u' then unescape .scalarOpen rest
      else if character = '\n' ∨ character = '\r' then unescape (.continuation false) rest
      else escapedCharacter character :: unescape .plain rest
    | .hexFirst => unescape (.hexSecond ((hexValue? character).getD 0)) rest
    | .hexSecond high =>
      Char.ofNat (high * 16 + (hexValue? character).getD 0) :: unescape .plain rest
    | .scalarOpen => unescape (.scalar 0 0) rest
    | .scalar digits value =>
      if character = '\x7d' then Char.ofNat value :: unescape .plain rest
      else if character = '_' then unescape (.scalar digits value) rest
      else unescape (.scalar (digits + 1) (value * 16 + (hexValue? character).getD 0)) rest
    | .continuation _ =>
      if character = ' ' ∨ character = '\t' ∨ character = '\n' ∨ character = '\r' then
        unescape (.continuation false) rest
      else if character = '"' then []
      else if character = '\\' then unescape .escape rest
      else character :: unescape .plain rest

/-- The text of a raw string after its opening quote. -/
def rawText (signs : Nat) : List Char → List Char
  | [] => []
  | '"' :: rest =>
    if (rest.takeWhile (· = '#')).length ≥ signs then [] else '"' :: rawText signs rest
  | character :: rest => character :: rawText signs rest

namespace Literal

def text? (literal : Literal) : Option String :=
  match literal.kind, literal.spelling.toList with
  | .text, '"' :: rest => some (String.ofList (unescape .plain rest))
  | .text, 'r' :: rest =>
    let signs := (rest.takeWhile (· = '#')).length
    some (String.ofList (rawText signs (rest.drop (signs + 1))))
  | _, _ => none

example : text? ⟨.text, "\"a\\x41\\u{42}\""⟩ = some "aAB" := by decide
example : text? ⟨.text, "r#\"a\"b\"#"⟩ = some "a\"b" := by decide

/-- The digits of an integer, without underscores, and its base and suffix. -/
def digits (literal : Literal) : Nat × List Char × List Char :=
  let letters := literal.spelling.toList
  let (base, body) := match letters with
    | '0' :: 'x' :: rest => (16, rest)
    | '0' :: 'o' :: rest => (8, rest)
    | '0' :: 'b' :: rest => (2, rest)
    | letters => (10, letters)
  let isDigit (character : Char) : Bool :=
    character = '_' || (hexValue? character).any (· < base)
  (base, (body.takeWhile isDigit).filter (· ≠ '_'), body.dropWhile isDigit)

def number? (literal : Literal) : Option Nat :=
  match literal.kind, literal.digits with
  | .integer, (base, digits, []) =>
    some (digits.foldl (fun total digit => total * base + (hexValue? digit).getD 0) 0)
  | _, _ => none

example : number? ⟨.integer, "0x1_0"⟩ = some 16 := by decide
example : number? ⟨.integer, "1u8"⟩ = none := by decide

end Literal

end Wireform.Syntax
