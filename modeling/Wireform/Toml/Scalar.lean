import Wireform.Toml.Item

namespace Wireform.Toml

/-! # Bare scalars

Numbers, truth values and moments: the scalars that are written without quotes. -/

/-- Whether these are digits of a base, with single underscores between them. -/
def areDigits (isDigit : Char → Bool) : List Char → Bool
  | [] => false
  | [last] => isDigit last
  | first :: '_' :: rest => isDigit first && areDigits isDigit rest
  | first :: rest => isDigit first && areDigits isDigit rest

def isHexDigit (character : Char) : Bool :=
  character.isDigit || ('a' ≤ character && character ≤ 'f') ||
    ('A' ≤ character && character ≤ 'F')

def digitValue (character : Char) : Nat :=
  if character.isDigit then character.toNat - '0'.toNat
  else if 'a' ≤ character then character.toNat - 'a'.toNat + 10
  else character.toNat - 'A'.toNat + 10

def numberOf (base : Nat) (digits : List Char) : Nat :=
  (digits.filter (· ≠ '_')).foldl (fun total digit => base * total + digitValue digit) 0

/-- Decimal digits without a leading zero. -/
def areWholeDigits (letters : List Char) : Bool :=
  areDigits Char.isDigit letters && (letters.head? != some '0' || letters.length == 1)

def splitSign : List Char → Bool × List Char
  | '-' :: rest => (true, rest)
  | '+' :: rest => (false, rest)
  | letters => (false, letters)

/-- The least number that is too large for 64 bits with a sign. -/
def integerBound : Nat := 0x8000000000000000

/-- An integer of 64 bits. Only decimal ones can have a sign. -/
def integer? (letters : List Char) : Option Int :=
  let based (base : Nat) (isDigit : Char → Bool) (digits : List Char) : Option Int :=
    let value := numberOf base digits
    if areDigits isDigit digits && value < integerBound then some value else none
  match letters with
  | '0' :: 'x' :: digits => based 16 isHexDigit digits
  | '0' :: 'o' :: digits => based 8 (fun digit => '0' ≤ digit && digit ≤ '7') digits
  | '0' :: 'b' :: digits => based 2 (fun digit => digit == '0' || digit == '1') digits
  | letters =>
    let (negative, digits) := splitSign letters
    let value := numberOf 10 digits
    if !areWholeDigits digits then none
    else if negative then if value ≤ integerBound then some (-value) else none
    else if value < integerBound then some value
    else none

/-- Whether these digits, times ten to this power, are too much for a float of 64 bits: they would
round to more than the largest finite one. -/
def overflows (digits : List Char) (exponent : Int) : Bool :=
  let mantissa := numberOf 10 digits
  let bound := Nat.pow 2 1024 - Nat.pow 2 970
  if mantissa = 0 ∨ exponent + digits.length ≤ 308 then false
  else if exponent > 308 then true
  else if exponent ≥ 0 then mantissa * Nat.pow 10 exponent.toNat ≥ bound
  else mantissa ≥ bound * Nat.pow 10 (-exponent).toNat

/-- Whether this is a float that 64 bits can hold. -/
def isFloat (letters : List Char) : Bool :=
  let (_, unsigned) := splitSign letters
  if unsigned = ['i', 'n', 'f'] || unsigned = ['n', 'a', 'n'] then true
  else
    let isMark (letter : Char) : Bool := letter = '.' || letter = 'e' || letter = 'E'
    let whole := unsigned.takeWhile fun letter => !isMark letter
    let rest := unsigned.drop whole.length
    let (fraction, tail) := match rest with
      | '.' :: more =>
        let digits := more.takeWhile fun letter => !isMark letter
        (some digits, more.drop digits.length)
      | _ => (none, rest)
    let power := match tail with
      | 'e' :: more => some (splitSign more)
      | 'E' :: more => some (splitSign more)
      | _ => none
    let complete := tail.isEmpty || power.isSome
    let digits := (whole ++ fraction.getD []).filter (· ≠ '_')
    let size := numberOf 10 (power.map Prod.snd |>.getD [])
    let exponent : Int := if (power.map Prod.fst).getD false then -size else size
    let places := ((fraction.getD []).filter (· ≠ '_')).length
    areWholeDigits whole && complete && (fraction.isSome || power.isSome) &&
      fraction.all (areDigits Char.isDigit) &&
      power.all (fun (_, size) => areDigits Char.isDigit size) &&
      !overflows digits (exponent - places)

/-! ## Moments -/

def fixedNumber? (count : Nat) (letters : List Char) : Option Nat :=
  if letters.length = count && letters.all Char.isDigit then some (numberOf 10 letters) else none

def isLeapYear (year : Nat) : Bool := year % 4 = 0 && (year % 100 ≠ 0 || year % 400 = 0)

def daysIn (year month : Nat) : Nat :=
  if month = 2 then if isLeapYear year then 29 else 28
  else if [4, 6, 9, 11].contains month then 30
  else 31

/-- Whether this is a day, such as `2024-02-29`. -/
def isDate (letters : List Char) : Bool :=
  match fixedNumber? 4 (letters.take 4), fixedNumber? 2 ((letters.drop 5).take 2),
      fixedNumber? 2 (letters.drop 8) with
  | some year, some month, some day =>
    letters[4]? = some '-' && letters[7]? = some '-' && 1 ≤ month && month ≤ 12 && 1 ≤ day &&
      day ≤ daysIn year month
  | _, _, _ => false

/-- Whether this is a time of day, such as `07:32:00.5`. The seconds can be left out. -/
def isTime (letters : List Char) : Bool :=
  let seconds := match letters.drop 5 with
    | [] => true
    | ':' :: rest => (fixedNumber? 2 (rest.take 2)).any (· ≤ 60) && match rest.drop 2 with
      | [] => true
      | '.' :: digits => !digits.isEmpty && digits.all Char.isDigit
      | _ => false
    | _ => false
  match fixedNumber? 2 (letters.take 2), fixedNumber? 2 ((letters.drop 3).take 2) with
  | some hour, some minute => letters[2]? = some ':' && hour < 24 && minute < 60 && seconds
  | _, _ => false

/-- Whether this is a distance from universal time, such as `Z` or `-07:00`. -/
def isOffset : List Char → Bool
  | ['Z'] => true
  | ['z'] => true
  | sign :: rest =>
    match fixedNumber? 2 (rest.take 2), fixedNumber? 2 (rest.drop 3) with
    | some hour, some minute =>
      (sign = '+' || sign = '-') && rest[2]? = some ':' && hour < 24 && minute < 60
    | _, _ => false
  | [] => false

def isTimeWithOffset (letters : List Char) : Bool :=
  let isSign (letter : Char) : Bool := ['Z', 'z', '+', '-'].contains letter
  let time := letters.takeWhile fun letter => !isSign letter
  let offset := letters.drop time.length
  isTime time && (offset.isEmpty || isOffset offset)

/-- Whether this is a day, a time of day, or both with a mark between them. -/
def isMoment (letters : List Char) : Bool :=
  isDate letters || isTime letters ||
    (isDate (letters.take 10) && (letters[10]?).any (['T', 't', ' '].contains ·) &&
      isTimeWithOffset (letters.drop 11))

def bareScalar? (letters : List Char) : Option Scalar :=
  let spelling := String.ofList letters
  if spelling = "true" then some (.truth true)
  else if spelling = "false" then some (.truth false)
  else
    match integer? letters with
    | some value => some (.integer value)
    | none =>
      if isFloat letters then some (.float spelling)
      else if isMoment letters then some (.moment spelling)
      else none

example : integer? ['1', '_', '0'] = some 10 := by decide
example : isFloat ['1', 'e', '3', '0', '9'] = false := by decide
example : isMoment ['2', '0', '2', '3', '-', '0', '2', '-', '2', '9'] = false := by decide

end Wireform.Toml
