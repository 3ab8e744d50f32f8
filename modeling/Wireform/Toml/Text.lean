import Wireform.Toml.Item

namespace Wireform.Toml

/-! # Quoted text

Strings with their quotes, escapes and line ends. Each reader starts behind the opening quotes and
gives the text and what follows the closing quotes. -/

/-- A character that can stand in a text or a comment: no control character but a tab. -/
def isPrintable (character : Char) : Bool :=
  character = '\t' || (0x20 ≤ character.toNat && character ≠ '\x7f')

def escaped? : Char → Option Char
  | 'b' => some '\x08'
  | 't' => some '\t'
  | 'n' => some '\n'
  | 'f' => some '\x0c'
  | 'r' => some '\r'
  | 'e' => some '\x1b'
  | '"' => some '"'
  | '\\' => some '\\'
  | _ => none

def hexValue? (digit : Char) : Option Nat :=
  if digit.isDigit then some (digit.toNat - '0'.toNat)
  else if 'a' ≤ digit ∧ digit ≤ 'f' then some (digit.toNat - 'a'.toNat + 10)
  else if 'A' ≤ digit ∧ digit ≤ 'F' then some (digit.toNat - 'A'.toNat + 10)
  else none

def character? (digits : List Char) : Option Char := do
  let value ← digits.foldlM (fun total digit => (hexValue? digit).map (16 * total + ·)) 0
  if value.isValidChar then some (Char.ofNat value) else none

def withFirst (first : Option Char) (read : Option (List Char × List Char)) :
    Option (List Char × List Char) := do
  let (text, rest) ← read
  return ((← first) :: text, rest)

/-- A text in double quotes on one line. -/
def quotedText : List Char → Option (List Char × List Char)
  | [] => none
  | '"' :: rest => some ([], rest)
  | '\\' :: 'x' :: a :: b :: rest => withFirst (character? [a, b]) (quotedText rest)
  | '\\' :: 'u' :: a :: b :: c :: d :: rest =>
    withFirst (character? [a, b, c, d]) (quotedText rest)
  | '\\' :: 'U' :: a :: b :: c :: d :: e :: f :: g :: h :: rest =>
    withFirst (character? [a, b, c, d, e, f, g, h]) (quotedText rest)
  | '\\' :: letter :: rest => withFirst (escaped? letter) (quotedText rest)
  | letter :: rest =>
    if isPrintable letter then withFirst (some letter) (quotedText rest) else none

/-- A text in single quotes on one line, where nothing is escaped. -/
def literalText : List Char → Option (List Char × List Char)
  | [] => none
  | '\'' :: rest => some ([], rest)
  | letter :: rest =>
    if isPrintable letter then withFirst (some letter) (literalText rest) else none

/-- Whether a line ends here, after blanks. -/
def endsLine : List Char → Bool
  | ' ' :: rest => endsLine rest
  | '\t' :: rest => endsLine rest
  | '\n' :: _ => true
  | '\r' :: '\n' :: _ => true
  | _ => false

/-- A text in three double quotes. While `folding`, blanks and line ends are left out: a backslash
at the end of a line starts that. Up to two quotes can stand right before the closing ones. -/
def longQuotedText : (folding : Bool) → List Char → Option (List Char × List Char)
  | _, [] => none
  | true, ' ' :: rest => longQuotedText true rest
  | true, '\t' :: rest => longQuotedText true rest
  | true, '\n' :: rest => longQuotedText true rest
  | true, '\r' :: '\n' :: rest => longQuotedText true rest
  | _, '"' :: '"' :: '"' :: '"' :: '"' :: rest => some (['"', '"'], rest)
  | _, '"' :: '"' :: '"' :: '"' :: rest => some (['"'], rest)
  | _, '"' :: '"' :: '"' :: rest => some ([], rest)
  | _, '\r' :: '\n' :: rest =>
    withFirst (some '\r') (withFirst (some '\n') (longQuotedText false rest))
  | _, '\n' :: rest => withFirst (some '\n') (longQuotedText false rest)
  | _, '\\' :: 'x' :: a :: b :: rest =>
    withFirst (character? [a, b]) (longQuotedText false rest)
  | _, '\\' :: 'u' :: a :: b :: c :: d :: rest =>
    withFirst (character? [a, b, c, d]) (longQuotedText false rest)
  | _, '\\' :: 'U' :: a :: b :: c :: d :: e :: f :: g :: h :: rest =>
    withFirst (character? [a, b, c, d, e, f, g, h]) (longQuotedText false rest)
  | _, '\\' :: letter :: rest =>
    if endsLine (letter :: rest) then longQuotedText true (letter :: rest)
    else withFirst (escaped? letter) (longQuotedText false rest)
  | _, letter :: rest =>
    if isPrintable letter then withFirst (some letter) (longQuotedText false rest) else none

def longLiteralText : List Char → Option (List Char × List Char)
  | [] => none
  | '\'' :: '\'' :: '\'' :: '\'' :: '\'' :: rest => some (['\'', '\''], rest)
  | '\'' :: '\'' :: '\'' :: '\'' :: rest => some (['\''], rest)
  | '\'' :: '\'' :: '\'' :: rest => some ([], rest)
  | '\r' :: '\n' :: rest => withFirst (some '\r') (withFirst (some '\n') (longLiteralText rest))
  | '\n' :: rest => withFirst (some '\n') (longLiteralText rest)
  | letter :: rest =>
    if isPrintable letter then withFirst (some letter) (longLiteralText rest) else none

/-- Leaves out a line end right behind opening quotes. -/
def dropLineEnd : List Char → List Char
  | '\n' :: rest => rest
  | '\r' :: '\n' :: rest => rest
  | letters => letters

def text? : List Char → Option (List Char × List Char)
  | '"' :: '"' :: '"' :: rest => longQuotedText false (dropLineEnd rest)
  | '\'' :: '\'' :: '\'' :: rest => longLiteralText (dropLineEnd rest)
  | '"' :: rest => quotedText rest
  | '\'' :: rest => literalText rest
  | _ => none

example : text? ['"', 'a', '\\', 'n', '"', ' '] = some (['a', '\n'], [' ']) := by decide
example : longQuotedText false ['\\', '\n', ' ', 'a', '"', '"', '"', '"'] =
    some (['a', '"'], []) := by decide

end Wireform.Toml
