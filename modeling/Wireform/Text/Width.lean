import Wireform.Text.Emoji
import Wireform.Text.Unseen

/-! # Width

How many columns of a terminal a line takes. Most characters take the same room wherever they stand,
but some are drawn as one with those behind them. So a line is measured from its end, and every
character leaves to the ones in front of it what they have to know. -/

namespace Wireform.Text

/-! ## Single characters -/

/-- The characters that take two columns: those that the Unicode standard calls wide. -/
def wideCharacters : CharacterRanges :=
  [(0x1100, 0x115f), (0x231a, 0x231b), (0x2329, 0x232a), (0x23e9, 0x23ec), (0x23f0, 0x23f0),
    (0x23f3, 0x23f3), (0x25fd, 0x25fe), (0x2614, 0x2615), (0x2630, 0x2637), (0x2648, 0x2653),
    (0x267f, 0x267f), (0x268a, 0x268f), (0x2693, 0x2693), (0x26a1, 0x26a1), (0x26aa, 0x26ab),
    (0x26bd, 0x26be), (0x26c4, 0x26c5), (0x26ce, 0x26ce), (0x26d4, 0x26d4), (0x26ea, 0x26ea),
    (0x26f2, 0x26f3), (0x26f5, 0x26f5), (0x26fa, 0x26fa), (0x26fd, 0x26fd), (0x2705, 0x2705),
    (0x270a, 0x270b), (0x2728, 0x2728), (0x274c, 0x274c), (0x274e, 0x274e), (0x2753, 0x2755),
    (0x2757, 0x2757), (0x2795, 0x2797), (0x27b0, 0x27b0), (0x27bf, 0x27bf), (0x2b1b, 0x2b1c),
    (0x2b50, 0x2b50), (0x2b55, 0x2b55), (0x2e80, 0x2e99), (0x2e9b, 0x2ef3), (0x2f00, 0x2fd5),
    (0x2ff0, 0x303e), (0x3041, 0x3096), (0x3099, 0x30ff), (0x3105, 0x312f), (0x3131, 0x318e),
    (0x3190, 0x31e5), (0x31ef, 0x321e), (0x3220, 0x3247), (0x3250, 0xa48c), (0xa490, 0xa4c6),
    (0xa960, 0xa97c), (0xac00, 0xd7a3), (0xf900, 0xfaff), (0xfe10, 0xfe19), (0xfe30, 0xfe52),
    (0xfe54, 0xfe66), (0xfe68, 0xfe6b), (0xff01, 0xff60), (0xffe0, 0xffe6), (0x16fe0, 0x16fe4),
    (0x16ff0, 0x16ff6), (0x17000, 0x18cd5), (0x18cff, 0x18d1e), (0x18d80, 0x18df2),
    (0x1aff0, 0x1aff3), (0x1aff5, 0x1affb), (0x1affd, 0x1affe), (0x1b000, 0x1b122),
    (0x1b132, 0x1b132), (0x1b150, 0x1b152), (0x1b155, 0x1b155), (0x1b164, 0x1b167),
    (0x1b170, 0x1b2fb), (0x1d300, 0x1d356), (0x1d360, 0x1d376), (0x1f004, 0x1f004),
    (0x1f0cf, 0x1f0cf), (0x1f18e, 0x1f18e), (0x1f191, 0x1f19a), (0x1f200, 0x1f202),
    (0x1f210, 0x1f23b), (0x1f240, 0x1f248), (0x1f250, 0x1f251), (0x1f260, 0x1f265),
    (0x1f300, 0x1f320), (0x1f32d, 0x1f335), (0x1f337, 0x1f37c), (0x1f37e, 0x1f393),
    (0x1f3a0, 0x1f3ca), (0x1f3cf, 0x1f3d3), (0x1f3e0, 0x1f3f0), (0x1f3f4, 0x1f3f4),
    (0x1f3f8, 0x1f43e), (0x1f440, 0x1f440), (0x1f442, 0x1f4fc), (0x1f4ff, 0x1f53d),
    (0x1f54b, 0x1f54e), (0x1f550, 0x1f567), (0x1f57a, 0x1f57a), (0x1f595, 0x1f596),
    (0x1f5a4, 0x1f5a4), (0x1f5fb, 0x1f64f), (0x1f680, 0x1f6c5), (0x1f6cc, 0x1f6cc),
    (0x1f6d0, 0x1f6d2), (0x1f6d5, 0x1f6d8), (0x1f6dc, 0x1f6df), (0x1f6eb, 0x1f6ec),
    (0x1f6f4, 0x1f6fc), (0x1f7e0, 0x1f7eb), (0x1f7f0, 0x1f7f0), (0x1f90c, 0x1f93a),
    (0x1f93c, 0x1f945), (0x1f947, 0x1f9ff), (0x1fa70, 0x1fa7c), (0x1fa80, 0x1fa8a),
    (0x1fa8e, 0x1fac6), (0x1fac8, 0x1fac8), (0x1facd, 0x1fadc), (0x1fadf, 0x1faea),
    (0x1faef, 0x1faf8), (0x20000, 0x2fffd), (0x30000, 0x3fffd)]

/-- More characters that take no column: the later letters of a syllable, which are drawn into the
first one, and marks that are drawn around other characters. -/
def overlaidCharacters : CharacterRanges :=
  [(0x605, 0x605), (0x70f, 0x70f), (0x890, 0x891), (0x8e2, 0x8e2), (0xd4e, 0xd4e), (0x1161, 0x11ff),
    (0xa8fa, 0xa8fa), (0xd7b0, 0xd7c6), (0xd7cb, 0xd7fb), (0x111c2, 0x111c3), (0x113d1, 0x113d1),
    (0x1193f, 0x1193f), (0x11941, 0x11941), (0x11a84, 0x11a89), (0x11d46, 0x11d46),
    (0x11f02, 0x11f02)]

/-- The characters without a column that end a run of Arabic letters. -/
def separatingCharacters : CharacterRanges :=
  [(0x605, 0x605), (0x890, 0x891), (0x8e2, 0x8e2), (0x9be, 0x9be), (0x9d7, 0x9d7), (0xb3e, 0xb3e),
    (0xb57, 0xb57), (0xbbe, 0xbbe), (0xbd7, 0xbd7), (0xcc0, 0xcc0), (0xcc2, 0xcc2), (0xcc7, 0xcc8),
    (0xcca, 0xccb), (0xcd5, 0xcd6), (0xd3e, 0xd3e), (0xd4e, 0xd4e), (0xd57, 0xd57), (0xdcf, 0xdcf),
    (0xddf, 0xddf), (0x1160, 0x11ff), (0x1715, 0x1715), (0x1734, 0x1734), (0x180e, 0x180e),
    (0x1b35, 0x1b35), (0x1b3b, 0x1b3b), (0x1b3d, 0x1b3d), (0x1b43, 0x1b44), (0x1baa, 0x1baa),
    (0x1bf2, 0x1bf3), (0x200c, 0x200d), (0x2065, 0x2069), (0x302e, 0x302f), (0x3164, 0x3164),
    (0xa8fa, 0xa8fa), (0xa953, 0xa953), (0xa9c0, 0xa9c0), (0xd7b0, 0xd7c6), (0xd7cb, 0xd7fb),
    (0xff9e, 0xffa0), (0xfff0, 0xfff8), (0x111c0, 0x111c0), (0x111c2, 0x111c3), (0x11235, 0x11235),
    (0x1133e, 0x1133e), (0x1134d, 0x1134d), (0x11357, 0x11357), (0x113b8, 0x113b8),
    (0x113c2, 0x113c2), (0x113c5, 0x113c5), (0x113c7, 0x113c9), (0x113cf, 0x113cf),
    (0x113d1, 0x113d1), (0x114b0, 0x114b0), (0x114bd, 0x114bd), (0x115af, 0x115af),
    (0x116b6, 0x116b6), (0x11930, 0x11930), (0x1193d, 0x1193d), (0x1193f, 0x1193f),
    (0x11941, 0x11941), (0x11a84, 0x11a89), (0x11d46, 0x11d46), (0x11f02, 0x11f02),
    (0x11f41, 0x11f41), (0x16ff0, 0x16ff1), (0x1d165, 0x1d166), (0x1d16d, 0x1d172),
    (0xe0000, 0xe0000), (0xe0002, 0xe001f), (0xe0080, 0xe00ff), (0xe01f0, 0xe0fff)]

def characterWidth (character : Char) : Nat :=
  if character.toNat < 0xad then 1
  else if character = '\u115f' ∨ character = '\u17a4' then 2
  else if character = '\u17d8' then 3
  else if character = '\u2d7f' then 1
  else if extendingCharacters.contains character ∨ ignorableCharacters.contains character then 0
  else if overlaidCharacters.contains character then 0
  else if wideCharacters.contains character then 2
  else 1

/-! ## Neighbours -/

/-- Letters that are drawn as one with certain letters in front of them. -/
inductive LigatureEnd where
  | hebrewLamed
  | bugineseYa
  /-- The vowel in front of a joiner and a ya. -/
  | bugineseVowel
  | tifinaghConsonant
  /-- The sign in front of a consonant. -/
  | tifinaghJoiner
  | lisuTone
  | turkicI
  | khmerConsonant
  deriving DecidableEq, Repr, Inhabited

/-- What stands behind a place, as far as widths depend on it. -/
inductive Neighbour where
  | plain
  | skinTone
  | flagHalf
  | flagHalves
  | picture
  /-- A joiner, and a picture behind it. -/
  | joinedPicture
  /-- The frame of a key in front of a joiner. -/
  | joinedKeycap
  /-- Halves of flags in front of a joiner: one, an even number or a larger odd number. -/
  | joinedFlagHalf
  | joinedFlags
  | joinedFlagsAndHalf
  /-- The tags of a flag in front of a joiner. -/
  | joinedTags (letters digits : Nat)
  | kiratRaiE
  | kiratRaiAi
  | arabicAlef
  /-- A letter, and whether a joiner stands in front of it. -/
  | ligature (letter : LigatureEnd) (joined : Bool)
  deriving DecidableEq, Repr, Inhabited

/-- How a mark asks for the character in front of it to be drawn. -/
inductive Presentation where
  | letter
  | picture
  | ideograph
  deriving DecidableEq, Repr, Inhabited

/-- What stands behind a place, and the mark in between if there is one. -/
structure Following where
  neighbour : Neighbour
  presentation : Option Presentation
  deriving DecidableEq, Repr, Inhabited

def isBetween (first last : Nat) (character : Char) : Bool :=
  first ≤ character.toNat && character.toNat ≤ last

def isTifinaghConsonant (character : Char) : Bool :=
  isBetween 0x2d31 0x2d65 character || character = '\u2d6f'

/-- Letters that lose their width below a coeng sign. -/
def khmerConsonants : CharacterRanges :=
  [(0x1780, 0x1782), (0x1784, 0x1787), (0x1789, 0x178c), (0x178e, 0x1793), (0x1795, 0x1798),
    (0x179b, 0x179d), (0x17a0, 0x17a0), (0x17a2, 0x17a2), (0x17a7, 0x17a7), (0x17ab, 0x17ac),
    (0x17af, 0x17af)]

/-- The Arabic letters that are forms of an alef: the property `Joining_Group`. -/
def arabicAlefs : CharacterRanges :=
  [(0x622, 0x623), (0x625, 0x625), (0x627, 0x627), (0x671, 0x673), (0x675, 0x675), (0x773, 0x774),
    (0x870, 0x882)]

/-- The Arabic letters that are forms of a lam. -/
def arabicLams : CharacterRanges :=
  [(0x644, 0x644), (0x6b5, 0x6b8), (0x76a, 0x76a), (0x8a6, 0x8a6), (0x8c7, 0x8c7)]

/-- Marks that nothing is drawn for. They can stand inside what is drawn as one. -/
def ignorableMarks : CharacterRanges :=
  [(0x34f, 0x34f), (0x17b4, 0x17b5), (0x180b, 0x180d), (0x180f, 0x180f), (0xfe00, 0xfe0f),
    (0xe0100, 0xe01ef)]

/-- The quotes that can be drawn as wide as an ideograph. -/
def variableQuotes : List Char := ['\u2018', '\u2019', '\u201c', '\u201d']

def ligatureEnd? (character : Char) : Option LigatureEnd :=
  if character = '\u05dc' then some .hebrewLamed
  else if character = '\u1a10' then some .bugineseYa
  else if isTifinaghConsonant character then some .tifinaghConsonant
  else if isBetween 0xa4fc 0xa4fd character then some .lisuTone
  else if character.toNat = 0x10c03 then some .turkicI
  else if khmerConsonants.contains character then some .khmerConsonant
  else none

namespace Neighbour

def ofCharacter (character : Char) : Neighbour :=
  if isSkinTone character then .skinTone
  else if isFlagHalf character then .flagHalf
  else if pictures.contains character then .picture
  else if arabicAlefs.contains character then .arabicAlef
  else if character.toNat = 0x16d67 then .kiratRaiE
  else if character.toNat = 0x16d68 then .kiratRaiAi
  else
    match ligatureEnd? character with
    | some letter => .ligature letter false
    | none => .plain

/-- Whether marks can come in between without a change. -/
def isLasting : Neighbour → Bool
  | .arabicAlef => true
  | .ligature _ _ => true
  | _ => false

/-- Whether a joiner stands in front of this and a picture behind it. -/
def isJoined : Neighbour → Bool
  | .joinedPicture => true
  | .joinedKeycap => true
  | _ => false

/-- The width of a letter that is drawn as one with this end of a ligature. -/
def beforeLigature (letter : LigatureEnd) (joined : Bool) (character : Char) :
    Option (Int × Neighbour) :=
  match letter with
  | .hebrewLamed => if joined && character = '\u05d0' then some (0, .plain) else none
  | .bugineseYa =>
    if joined && character = '\u1a17' then some (0, .ligature .bugineseVowel true) else none
  | .bugineseVowel => if character = '\u1a15' then some (0, .plain) else none
  | .tifinaghConsonant =>
    if character = '\u2d7f' then some (1, .ligature .tifinaghJoiner true)
    else if joined && isTifinaghConsonant character then some (0, .plain)
    else none
  | .tifinaghJoiner => if isTifinaghConsonant character then some (-1, .plain) else none
  | .lisuTone => if isBetween 0xa4f8 0xa4fb character then some (0, .plain) else none
  | .turkicI => if joined && character.toNat = 0x10c32 then some (0, .plain) else none
  | .khmerConsonant => if character = '\u17d2' then some (-1, .plain) else none

/-- The width of a character in front of a joiner and a picture. -/
def beforeJoined (character : Char) : Option (Int × Neighbour) :=
  if character = '\u20e3' then some (0, .joinedKeycap)
  else if isFlagHalf character then some (1, .joinedFlagHalf)
  else if isSkinTone character then some (0, .skinTone)
  else if character.toNat = 0xe007f then some (0, .joinedTags 0 0)
  else if pictures.contains character then some (0, .picture)
  else none

/-- The width of a character in front of tags: they are a flag with the right number of letters or
digits. -/
def beforeTags (letters digits : Nat) (character : Char) : Option (Int × Neighbour) :=
  if isBetween 0xe0061 0xe007a character && letters < 6 && digits = 0 then
    some (0, .joinedTags (letters + 1) 0)
  else if isBetween 0xe0030 0xe0039 character && letters < 5 && digits < 3 then
    some (0, .joinedTags letters (digits + 1))
  else if character.toNat = 0x1f3f4 && (digits = 3 || digits = 0 && letters ≥ 3) then
    some (0, .picture)
  else none

/-- The width of a character in front of this, if it is another one than where it stands alone, or
if it is not all that the characters in front of it have to know. -/
def before? (neighbour : Neighbour) (character : Char) : Option (Int × Neighbour) :=
  let isJoiner := character = joiner
  match neighbour with
  | .plain => none
  | .skinTone =>
    if tonableCharacters.contains character then some (0, .picture)
    else if isJoiner then some (0, .joinedPicture)
    else none
  | .flagHalf => if isFlagHalf character then some (1, .flagHalves) else none
  | .flagHalves =>
    if isFlagHalf character then some (1, .flagHalves)
    else if isJoiner then some (0, .joinedPicture)
    else none
  | .picture => if isJoiner then some (0, .joinedPicture) else none
  | .joinedPicture => beforeJoined character
  | .joinedKeycap => none
  | .joinedFlagHalf => if isFlagHalf character then some (-1, .joinedFlags) else none
  | .joinedFlags =>
    if isFlagHalf character then some (3, .joinedFlagsAndHalf)
    else if isJoiner then some (0, .joinedPicture)
    else none
  | .joinedFlagsAndHalf =>
    if isFlagHalf character then some (-1, .joinedFlags)
    else if isJoiner then some (0, .joinedPicture)
    else none
  | .joinedTags letters digits => beforeTags letters digits character
  | .kiratRaiE =>
    if character.toNat = 0x16d63 ∨ character.toNat = 0x16d69 then some (0, .plain)
    else if character.toNat = 0x16d67 then some (0, .kiratRaiAi)
    else if character.toNat = 0x16d68 then some (1, .kiratRaiE)
    else none
  | .kiratRaiAi => if character.toNat = 0x16d63 then some (0, .plain) else none
  | .arabicAlef =>
    if arabicLams.contains character then some (0, .plain)
    else if characterWidth character = 0 && !separatingCharacters.contains character then
      some (0, .arabicAlef)
    else none
  | .ligature letter joined =>
    if isJoiner then some (0, .ligature letter true)
    else if ignorableMarks.contains character then some (0, neighbour)
    else beforeLigature letter joined character

end Neighbour

namespace Following

def plain : Following := ⟨.plain, none⟩

def marked (following : Following) (presentation : Presentation) : Following :=
  let stays := following.neighbour.isLasting ||
    (presentation = .picture && following.neighbour.isJoined)
  ⟨if stays then following.neighbour else .plain, some presentation⟩

/-- The mark has nothing to ask for. -/
def unmarked (following : Following) : Following :=
  if following.presentation.isNone || following.neighbour.isLasting then
    ⟨following.neighbour, none⟩
  else plain

/-- The width of a character behind which there is this, with the mark settled. -/
def beforeNeighbour (neighbour : Neighbour) (character : Char) : Int × Following :=
  match neighbour.before? character with
  | some (width, next) => (width, ⟨next, none⟩)
  | none => (characterWidth character, ⟨.ofCharacter character, none⟩)

/-- The width of a character behind which there is this, and what there is behind the place in front
of the character. -/
def before (following : Following) (character : Char) : Int × Following :=
  if following.presentation = some .picture && variableCharacters.contains character then
    (if following.neighbour.isJoined then 0 else 2, ⟨.picture, none⟩)
  else if character.toNat ≤ 0xa0 then (1, plain)
  else
    let following :=
      if following.presentation = some .picture then following.unmarked else following
    if character = '\ufe0f' then (0, following.marked .picture)
    else if character = '\ufe0e' then (0, following.marked .letter)
    else if character = '\ufe01' then (0, following.marked .ideograph)
    else if following.presentation = some .letter && pictures.contains character &&
        variableCharacters.contains character && !isBetween 0x1f200 0x1f2ff character then
      (1, plain)
    else if following.presentation = some .ideograph && variableQuotes.contains character then
      (2, plain)
    else beforeNeighbour following.unmarked.neighbour character

end Following

/-! ## Lines -/

/-- The width of the letters of a line, and what they leave to those in front of them. -/
def measured : List Char → Int × Following
  | [] => (0, .plain)
  | first :: rest =>
    let (width, following) := measured rest
    let (more, next) := following.before first
    (width + more, next)

def widthOf (letters : List Char) : Nat := (measured letters).1.toNat

def textWidth (text : String) : Nat := widthOf text.toList

example : textWidth "a名" = 3 := by decide +kernel
example : textWidth "❤" = 1 ∧ textWidth "❤\ufe0f" = 2 := by decide +kernel
example : textWidth "“" = 1 ∧ textWidth "“\ufe01" = 2 := by decide +kernel

end Wireform.Text
