import Wireform.Toml.Text
import Wireform.Toml.Scalar

namespace Wireform.Toml

/-! # Lines

What the lines of a document say: headers, and keys with their values. -/

/-- A reader of a document's characters. It fails without a reason. -/
abbrev Reader := StateT (List Char) Option

namespace Reader

def takes (character : Char) : Reader Bool := do
  match ← get with
  | next :: rest =>
    if next = character then
      set rest
      return true
    else return false
  | [] => return false

def expect (character : Char) : Reader Unit := do
  if ← takes character then pure () else failure

def takeWhile (inClass : Char → Bool) : Reader (List Char) := do
  let taken := (← get).takeWhile inClass
  modify fun letters => letters.drop taken.length
  return taken

def isBlank (character : Char) : Bool := character = ' ' || character = '\t'

def blanks : Reader Unit := discard (takeWhile isBlank)

def comment : Reader Unit := do
  if ← takes '#' then discard (takeWhile isPrintable)

def takesLineEnd : Reader Bool := do
  match ← get with
  | '\n' :: rest => set rest; return true
  | '\r' :: '\n' :: rest => set rest; return true
  | _ => return false

/-- What can stand behind a header or a value: blanks, a comment, and the end of the line. -/
def restOfLine : Reader Unit := do
  blanks
  comment
  unless ← takesLineEnd do
    unless (← get).isEmpty do failure

/-- Takes blanks, comments and line ends. Each round takes a line end, so as much fuel as there are
characters is enough. -/
def gap : (fuel : Nat) → Reader Unit
  | 0 => pure ()
  | fuel + 1 => do
    blanks
    comment
    if ← takesLineEnd then gap fuel

def anyGap : Reader Unit := do gap ((← get).length + 1)

/-! ## Keys -/

def isKeyCharacter (character : Char) : Bool :=
  character.isAlphanum || character = '_' || character = '-'

/-- A key without dots: a bare word, or a text on one line. -/
def simpleKey : Reader String := do
  match ← get with
  | '"' :: rest =>
    let (text, rest) ← quotedText rest
    set rest
    return String.ofList text
  | '\'' :: rest =>
    let (text, rest) ← literalText rest
    set rest
    return String.ofList text
  | _ =>
    let letters ← takeWhile isKeyCharacter
    if letters.isEmpty then failure else return String.ofList letters

/-- The parts of a key behind its first part, with the first part before them. -/
def moreKeys : (fuel : Nat) → String → Reader (List String × String)
  | 0, _ => failure
  | fuel + 1, first => do
    blanks
    if ← takes '.' then
      blanks
      let (path, last) ← moreKeys fuel (← simpleKey)
      return (first :: path, last)
    else
      return ([], first)

def keyLimit : Nat := 80

/-- A key that may have dots: the parts before the last dot, and the last part. -/
def key : Reader (List String × String) := do
  let first ← simpleKey
  let (path, last) ← moreKeys ((← get).length + 1) first
  if path.length < keyLimit then return (path, last) else failure

/-! ## Values -/

def isBareCharacter (character : Char) : Bool :=
  character.isAlphanum || ['+', '-', '_', '.', ':'].contains character

/-- A scalar without quotes. A day can be followed by a blank and the time of day. -/
def bareScalar : Reader Scalar := do
  let letters ← takeWhile isBareCharacter
  match ← get with
  | ' ' :: digit :: rest =>
    if isDate letters && digit.isDigit then
      set (digit :: rest)
      let time ← takeWhile isBareCharacter
      bareScalar? (letters ++ ' ' :: time)
    else bareScalar? letters
  | _ => bareScalar? letters

/-- The items of an array up to its closing bracket. A comma can follow the last one. -/
def arrayItems (value : Reader Item) : (fuel : Nat) → Reader (List Item)
  | 0 => failure
  | fuel + 1 => do
    anyGap
    if ← takes ']' then return []
    else
      let first ← value
      anyGap
      if ← takes ',' then return first :: (← arrayItems value fuel)
      else
        expect ']'
        return [first]

/-- The entries of an inline table up to its closing brace. A comma can follow the last one. -/
def inlineEntries (value : Reader Item) : (fuel : Nat) → Table → Reader Table
  | 0, _ => failure
  | fuel + 1, table => do
    anyGap
    if ← takes '\x7d' then return table
    else
      let (path, last) ← key
      expect '='
      blanks
      let table ← table.assign path last (← value)
      anyGap
      if ← takes ',' then inlineEntries value fuel table
      else
        expect '\x7d'
        return table

def nestingLimit : Nat := 80

/-- A value whose parts, if it can have any, are read by `part`. -/
def valueOf (part : Option (Reader Item)) : Reader Item := do
  match ← get with
  | '"' :: _ => quoted
  | '\'' :: _ => quoted
  | '[' :: rest =>
    set rest
    return .array (← arrayItems (← part) (rest.length + 1))
  | '{' :: rest =>
    set rest
    return .table (← inlineEntries (← part) (rest.length + 1) (.empty .inline))
  | _ => return .scalar (← bareScalar)
where
  quoted : Reader Item := do
    let (text, rest) ← text? (← get)
    set rest
    return .scalar (.text (String.ofList text))

/-- A value in which arrays and inline tables are nested no deeper than this. -/
def value : (depth : Nat) → Reader Item
  | 0 => valueOf none
  | depth + 1 => valueOf (some (value depth))

end Reader

/-! ## Whole lines -/

/-- What a line that is not blank says. -/
inductive Line where
  /-- A table begins here: `array` where it is one more table of an array. -/
  | header (array : Bool) (path : List String) (key : String)
  | assignment (path : List String) (key : String) (value : Item)

namespace Reader

def header : Reader Line := do
  expect '['
  let array ← takes '['
  blanks
  let (path, last) ← key
  blanks
  expect ']'
  if array then expect ']'
  return .header array path last

def assignment : Reader Line := do
  let (path, last) ← key
  expect '='
  blanks
  return .assignment path last (← value nestingLimit)

/-- All lines. Each one takes a character or is the last. -/
def lines : (fuel : Nat) → Reader (List Line)
  | 0 => failure
  | fuel + 1 => do
    blanks
    match ← get with
    | [] => return []
    | '#' :: _ =>
      restOfLine
      lines fuel
    | '\n' :: rest =>
      set rest
      lines fuel
    | '\r' :: '\n' :: rest =>
      set rest
      lines fuel
    | '[' :: _ =>
      let line ← header
      restOfLine
      return line :: (← lines fuel)
    | _ =>
      let line ← assignment
      restOfLine
      return line :: (← lines fuel)

end Reader

def Line.readAll? (letters : List Char) : Option (List Line) :=
  (Reader.lines (letters.length + 1) letters).map Prod.fst

end Wireform.Toml
