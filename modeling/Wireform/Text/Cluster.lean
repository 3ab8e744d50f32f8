import Wireform.Text.Emoji
import Wireform.Text.Unseen

/-! # Clusters

The pieces of a line that a reader takes for one character: the extended grapheme clusters of the
Unicode standard. Whether two characters belong together depends on the second one and on what the
first one ends. -/

namespace Wireform.Text

/-! ## Tables -/

/-- Characters that control how others are written, and belong to none: the property
`Grapheme_Cluster_Break` is `Control`, or they end a line. -/
def controlCharacters : CharacterRanges :=
  [(0x0, 0x1f), (0x7f, 0x9f), (0xad, 0xad), (0x61c, 0x61c), (0x180e, 0x180e), (0x200b, 0x200b),
    (0x200e, 0x200f), (0x2028, 0x202e), (0x2060, 0x206f), (0xfeff, 0xfeff), (0xfff0, 0xfffb),
    (0x13430, 0x1343f), (0x1bca0, 0x1bca3), (0x1d173, 0x1d17a), (0xe0000, 0xe001f),
    (0xe0080, 0xe00ff), (0xe01f0, 0xe0fff)]

/-- Marks that are written in front of the character they belong to. -/
def prependedCharacters : CharacterRanges :=
  [(0x600, 0x605), (0x6dd, 0x6dd), (0x70f, 0x70f), (0x890, 0x891), (0x8e2, 0x8e2), (0xd4e, 0xd4e),
    (0x110bd, 0x110bd), (0x110cd, 0x110cd), (0x111c2, 0x111c3), (0x113d1, 0x113d1),
    (0x1193f, 0x1193f), (0x11941, 0x11941), (0x11a84, 0x11a89), (0x11d46, 0x11d46),
    (0x11f02, 0x11f02)]

/-- Marks with a width of their own. -/
def spacingMarks : CharacterRanges :=
  [(0x903, 0x903), (0x93b, 0x93b), (0x93e, 0x940), (0x949, 0x94c), (0x94e, 0x94f), (0x982, 0x983),
    (0x9bf, 0x9c0), (0x9c7, 0x9c8), (0x9cb, 0x9cc), (0xa03, 0xa03), (0xa3e, 0xa40), (0xa83, 0xa83),
    (0xabe, 0xac0), (0xac9, 0xac9), (0xacb, 0xacc), (0xb02, 0xb03), (0xb40, 0xb40), (0xb47, 0xb48),
    (0xb4b, 0xb4c), (0xbbf, 0xbbf), (0xbc1, 0xbc2), (0xbc6, 0xbc8), (0xbca, 0xbcc), (0xc01, 0xc03),
    (0xc41, 0xc44), (0xc82, 0xc83), (0xcbe, 0xcbe), (0xcc1, 0xcc1), (0xcc3, 0xcc4), (0xcf3, 0xcf3),
    (0xd02, 0xd03), (0xd3f, 0xd40), (0xd46, 0xd48), (0xd4a, 0xd4c), (0xd82, 0xd83), (0xdd0, 0xdd1),
    (0xdd8, 0xdde), (0xdf2, 0xdf3), (0xe33, 0xe33), (0xeb3, 0xeb3), (0xf3e, 0xf3f), (0xf7f, 0xf7f),
    (0x1031, 0x1031), (0x103b, 0x103c), (0x1056, 0x1057), (0x1084, 0x1084), (0x17b6, 0x17b6),
    (0x17be, 0x17c5), (0x17c7, 0x17c8), (0x1923, 0x1926), (0x1929, 0x192b), (0x1930, 0x1931),
    (0x1933, 0x1938), (0x1a19, 0x1a1a), (0x1a55, 0x1a55), (0x1a57, 0x1a57), (0x1a6d, 0x1a72),
    (0x1b04, 0x1b04), (0x1b3e, 0x1b41), (0x1b82, 0x1b82), (0x1ba1, 0x1ba1), (0x1ba6, 0x1ba7),
    (0x1be7, 0x1be7), (0x1bea, 0x1bec), (0x1bee, 0x1bee), (0x1c24, 0x1c2b), (0x1c34, 0x1c35),
    (0x1ce1, 0x1ce1), (0x1cf7, 0x1cf7), (0xa823, 0xa824), (0xa827, 0xa827), (0xa880, 0xa881),
    (0xa8b4, 0xa8c3), (0xa952, 0xa952), (0xa983, 0xa983), (0xa9b4, 0xa9b5), (0xa9ba, 0xa9bb),
    (0xa9be, 0xa9bf), (0xaa2f, 0xaa30), (0xaa33, 0xaa34), (0xaa4d, 0xaa4d), (0xaaeb, 0xaaeb),
    (0xaaee, 0xaaef), (0xaaf5, 0xaaf5), (0xabe3, 0xabe4), (0xabe6, 0xabe7), (0xabe9, 0xabea),
    (0xabec, 0xabec), (0x11000, 0x11000), (0x11002, 0x11002), (0x11082, 0x11082),
    (0x110b0, 0x110b2), (0x110b7, 0x110b8), (0x1112c, 0x1112c), (0x11145, 0x11146),
    (0x11182, 0x11182), (0x111b3, 0x111b5), (0x111bf, 0x111bf), (0x111ce, 0x111ce),
    (0x1122c, 0x1122e), (0x11232, 0x11233), (0x112e0, 0x112e2), (0x11302, 0x11303),
    (0x1133f, 0x1133f), (0x11341, 0x11344), (0x11347, 0x11348), (0x1134b, 0x1134c),
    (0x11362, 0x11363), (0x113b9, 0x113ba), (0x113ca, 0x113ca), (0x113cc, 0x113cd),
    (0x11435, 0x11437), (0x11440, 0x11441), (0x11445, 0x11445), (0x114b1, 0x114b2),
    (0x114b9, 0x114b9), (0x114bb, 0x114bc), (0x114be, 0x114be), (0x114c1, 0x114c1),
    (0x115b0, 0x115b1), (0x115b8, 0x115bb), (0x115be, 0x115be), (0x11630, 0x11632),
    (0x1163b, 0x1163c), (0x1163e, 0x1163e), (0x116ac, 0x116ac), (0x116ae, 0x116af),
    (0x1171e, 0x1171e), (0x11726, 0x11726), (0x1182c, 0x1182e), (0x11838, 0x11838),
    (0x11931, 0x11935), (0x11937, 0x11938), (0x11940, 0x11940), (0x11942, 0x11942),
    (0x119d1, 0x119d3), (0x119dc, 0x119df), (0x119e4, 0x119e4), (0x11a39, 0x11a39),
    (0x11a57, 0x11a58), (0x11a97, 0x11a97), (0x11b61, 0x11b61), (0x11b65, 0x11b65),
    (0x11b67, 0x11b67), (0x11c2f, 0x11c2f), (0x11c3e, 0x11c3e), (0x11ca9, 0x11ca9),
    (0x11cb1, 0x11cb1), (0x11cb4, 0x11cb4), (0x11d8a, 0x11d8e), (0x11d93, 0x11d94),
    (0x11d96, 0x11d96), (0x11ef5, 0x11ef6), (0x11f03, 0x11f03), (0x11f34, 0x11f35),
    (0x11f3e, 0x11f3f), (0x1612a, 0x1612c), (0x16f51, 0x16f87)]

/-- Letters that open a syllable of Hangul. -/
def leadingJamo : CharacterRanges :=
  [(0x1100, 0x115f), (0xa960, 0xa97c)]

/-- Vowels of a syllable. -/
def vowelJamo : CharacterRanges :=
  [(0x1160, 0x11a7), (0xd7b0, 0xd7c6), (0x16d63, 0x16d63), (0x16d67, 0x16d6a)]

/-- Letters that close a syllable of Hangul. -/
def trailingJamo : CharacterRanges :=
  [(0x11a8, 0x11ff), (0xd7cb, 0xd7fb)]

/-- Signs that make one letter of two consonants. -/
def conjunctLinkers : CharacterRanges :=
  [(0x94d, 0x94d), (0x9cd, 0x9cd), (0xacd, 0xacd), (0xb4d, 0xb4d), (0xc4d, 0xc4d), (0xd4d, 0xd4d),
    (0x1039, 0x1039), (0x17d2, 0x17d2), (0x1a60, 0x1a60), (0x1b44, 0x1b44), (0x1bab, 0x1bab),
    (0xa9c0, 0xa9c0), (0xaaf6, 0xaaf6), (0x10a3f, 0x10a3f), (0x11133, 0x11133), (0x113d0, 0x113d0),
    (0x1193e, 0x1193e), (0x11a47, 0x11a47), (0x11a99, 0x11a99), (0x11f42, 0x11f42)]

/-- Consonants that such a sign can join. -/
def conjunctConsonants : CharacterRanges :=
  [(0x915, 0x939), (0x958, 0x95f), (0x978, 0x97f), (0x995, 0x9a8), (0x9aa, 0x9b0), (0x9b2, 0x9b2),
    (0x9b6, 0x9b9), (0x9dc, 0x9dd), (0x9df, 0x9df), (0x9f0, 0x9f1), (0xa95, 0xaa8), (0xaaa, 0xab0),
    (0xab2, 0xab3), (0xab5, 0xab9), (0xaf9, 0xaf9), (0xb15, 0xb28), (0xb2a, 0xb30), (0xb32, 0xb33),
    (0xb35, 0xb39), (0xb5c, 0xb5d), (0xb5f, 0xb5f), (0xb71, 0xb71), (0xc15, 0xc28), (0xc2a, 0xc39),
    (0xc58, 0xc5a), (0xd15, 0xd3a), (0x1000, 0x102a), (0x103f, 0x103f), (0x1050, 0x1055),
    (0x105a, 0x105d), (0x1061, 0x1061), (0x1065, 0x1066), (0x106e, 0x1070), (0x1075, 0x1081),
    (0x108e, 0x108e), (0x1780, 0x17b3), (0x1a20, 0x1a54), (0x1b0b, 0x1b0c), (0x1b13, 0x1b33),
    (0x1b45, 0x1b4c), (0x1b83, 0x1ba0), (0x1bae, 0x1baf), (0x1bbb, 0x1bbd), (0xa989, 0xa98b),
    (0xa98f, 0xa9b2), (0xa9e0, 0xa9e4), (0xa9e7, 0xa9ef), (0xa9fa, 0xa9fe), (0xaa60, 0xaa6f),
    (0xaa71, 0xaa73), (0xaa7a, 0xaa7a), (0xaa7e, 0xaa7f), (0xaae0, 0xaaea), (0xabc0, 0xabda),
    (0x10a00, 0x10a00), (0x10a10, 0x10a13), (0x10a15, 0x10a17), (0x10a19, 0x10a35),
    (0x11103, 0x11126), (0x11144, 0x11144), (0x11147, 0x11147), (0x11380, 0x11389),
    (0x1138b, 0x1138b), (0x1138e, 0x1138e), (0x11390, 0x113b5), (0x11900, 0x11906),
    (0x11909, 0x11909), (0x1190c, 0x11913), (0x11915, 0x11916), (0x11918, 0x1192f),
    (0x11a00, 0x11a00), (0x11a0b, 0x11a32), (0x11a50, 0x11a50), (0x11a5c, 0x11a83),
    (0x11f04, 0x11f10), (0x11f12, 0x11f33)]

/-! ## Roles -/

/-- What a character does to the borders of clusters. -/
inductive ClusterRole where
  | other
  | control
  | extending
  | joiner
  | prepended
  | spacing
  | flagHalf
  | leading
  | vowel
  | trailing
  /-- A syllable that is one character, and whether it is closed. -/
  | syllable (closed : Bool)
  deriving DecidableEq, Repr, Inhabited

def isSyllable (character : Char) : Bool :=
  0xac00 ≤ character.toNat && character.toNat ≤ 0xd7a3

/-- The role of a character. Each block of 28 syllables opens with the one that is not closed. -/
def clusterRole (character : Char) : ClusterRole :=
  if isSyllable character then .syllable ((character.toNat - 0xac00) % 28 ≠ 0)
  else if controlCharacters.contains character then .control
  else if character = joiner then .joiner
  else if extendingCharacters.contains character || isSkinTone character then .extending
  else if isFlagHalf character then .flagHalf
  else if prependedCharacters.contains character then .prepended
  else if spacingMarks.contains character then .spacing
  else if leadingJamo.contains character then .leading
  else if vowelJamo.contains character then .vowel
  else if trailingJamo.contains character then .trailing
  else .other

/-! ## Borders -/

/-- How far a run that joins two characters has come: not begun, begun by the first of them, or
ready for the second. -/
inductive Run where
  | none
  | begun
  | ready
  deriving DecidableEq, Repr, Inhabited

/-- What the characters up to a place end. -/
structure ClusterState where
  role : ClusterRole
  /-- Whether the first half of a flag stands here without its second one. -/
  flagOpen : Bool
  /-- A picture and a joiner, which join another picture. -/
  picture : Run
  /-- A consonant and a sign, which join another consonant. -/
  conjunct : Run
  deriving Repr, Inhabited

namespace ClusterState

/-- The state behind a character with nothing in front. -/
def first (character : Char) : ClusterState where
  role := clusterRole character
  flagOpen := isFlagHalf character
  picture := if pictographs.contains character then .begun else .none
  conjunct := if conjunctConsonants.contains character then .begun else .none

def continuesSyllable : ClusterRole → ClusterRole → Bool
  | .leading, .leading => true
  | .leading, .vowel => true
  | .leading, .syllable _ => true
  | .vowel, .vowel => true
  | .vowel, .trailing => true
  | .syllable false, .vowel => true
  | .syllable _, .trailing => true
  | .trailing, .trailing => true
  | _, _ => false

/-- Whether a character belongs to the cluster in front of it. -/
def joins (state : ClusterState) (character : Char) : Bool :=
  let role := clusterRole character
  if state.role = .control || role = .control then false
  else if state.role = .prepended then true
  else if role = .extending || role = .joiner || role = .spacing then true
  else
    continuesSyllable state.role role ||
      (state.conjunct = .ready && conjunctConsonants.contains character) ||
      (state.picture = .ready && pictographs.contains character) ||
      (state.flagOpen && role = .flagHalf)

def next (state : ClusterState) (character : Char) : ClusterState :=
  let fresh := first character
  let transparent := fresh.role = .extending || fresh.role = .joiner
  { fresh with
    flagOpen := fresh.role = .flagHalf && !state.flagOpen
    picture :=
      if fresh.picture = .begun then .begun
      else if state.picture = .begun && fresh.role = .joiner then .ready
      else if state.picture = .begun && fresh.role = .extending then .begun
      else .none
    conjunct :=
      if fresh.conjunct = .begun then .begun
      else if state.conjunct = .none then .none
      else if conjunctLinkers.contains character then .ready
      else if transparent && character ≠ '\u200c' then state.conjunct
      else .none }

end ClusterState

/-! ## Clusters -/

/-- The clusters of letters behind which `state` holds. The first of them goes on with these
letters as long as they join it. -/
def clustersFrom (state : ClusterState) : List Char → List Char × List (List Char)
  | [] => ([], [])
  | letter :: rest =>
    let (more, clusters) := clustersFrom (state.next letter) rest
    if state.joins letter then (letter :: more, clusters) else ([], (letter :: more) :: clusters)

def clusters : List Char → List (List Char)
  | [] => []
  | letter :: rest =>
    let (more, clusters) := clustersFrom (.first letter) rest
    (letter :: more) :: clusters

example : clusters ['a', '\u0301', 'b'] = [['a', '\u0301'], ['b']] := by decide +kernel

end Wireform.Text
