import Wireform.Console.Invocation

/-! # Styles

The colors of the program's output, and how a terminal is told about them. -/

namespace Wireform.Console

structure Color where
  red : Nat
  green : Nat
  blue : Nat
  deriving DecidableEq, Repr, Inhabited

/-- What a piece of output is, which decides its color. -/
inductive Role where
  | timestamp
  | primary
  | accent
  | label
  | value
  | success
  | warning
  | error
  deriving DecidableEq, Repr, Inhabited

inductive Theme where
  | dark
  | light
  deriving DecidableEq, Repr, Inhabited

def Theme.color : Theme → Role → Color
  | .dark, .timestamp => ⟨128, 150, 170⟩
  | .dark, .primary => ⟨200, 200, 210⟩
  | .dark, .accent => ⟨120, 170, 220⟩
  | .dark, .label => ⟨150, 190, 230⟩
  | .dark, .value => ⟨235, 235, 240⟩
  | .dark, .success => ⟨120, 200, 140⟩
  | .dark, .warning => ⟨230, 190, 90⟩
  | .dark, .error => ⟨230, 100, 100⟩
  | .light, .timestamp => ⟨90, 100, 115⟩
  | .light, .primary => ⟨40, 40, 50⟩
  | .light, .accent => ⟨30, 90, 160⟩
  | .light, .label => ⟨20, 80, 140⟩
  | .light, .value => ⟨15, 15, 20⟩
  | .light, .success => ⟨30, 130, 70⟩
  | .light, .warning => ⟨160, 110, 0⟩
  | .light, .error => ⟨180, 40, 40⟩

structure Palette where
  enabled : Bool
  theme : Theme
  deriving DecidableEq, Repr, Inhabited

namespace Palette

/-- The control sequence that sets the text's color. Without colors it sets the terminal's own. -/
def foreground (palette : Palette) (role : Role) : String :=
  if palette.enabled then
    let color := palette.theme.color role
    s!"\x1b[38;2;{color.red};{color.green};{color.blue}m"
  else "\x1b[39m"

def paint (palette : Palette) (role : Role) (text : String) : String :=
  palette.foreground role ++ text ++ "\x1b[39m"

def paintBold (palette : Palette) (role : Role) (text : String) : String :=
  palette.foreground role ++ "\x1b[1m" ++ text ++ "\x1b[0m"

end Palette

/-! ## Detection -/

/-- What a run learns from its surroundings. -/
structure Terminal where
  /-- Whether output goes to a terminal that wants colors. -/
  wantsColor : Bool
  /-- What the terminal says about its colors: numbers, of which the last one is the background. -/
  colors : Option String
  width : Nat
  /-- The time of day, in brackets. -/
  clock : String
  deriving DecidableEq, Repr, Inhabited

/-- The number below 256 that a text writes. A plus sign can come first. -/
def byte? (letters : List Char) : Option Nat :=
  let digits := match letters with
    | '+' :: rest => rest
    | letters => letters
  let value := digits.foldl (fun total digit => 10 * total + (digit.toNat - '0'.toNat)) 0
  if !digits.isEmpty && digits.all Char.isDigit && value < 256 then some value else none

def lastField (letters : List Char) : List Char :=
  (letters.reverse.takeWhile (· ≠ ';')).reverse

/-- The theme that suits a background. Of the sixteen basic colors, white and the bright ones but
the first are light. -/
def Theme.ofColors? (colors : String) : Option Theme :=
  (byte? (lastField colors.toList)).map fun background =>
    if background = 7 ∨ background ≥ 9 then .light else .dark

def Terminal.theme (terminal : Terminal) : ThemeMode → Theme
  | .dark => .dark
  | .light => .light
  | .auto => (terminal.colors.bind Theme.ofColors?).getD .dark

def Terminal.palette (terminal : Terminal) (color : ColorMode) (theme : ThemeMode) : Palette where
  enabled := match color with
    | .always => true
    | .never => false
    | .auto => terminal.wantsColor
  theme := terminal.theme theme

example : Theme.ofColors? "0;default;7" = some .light := by decide
example : Theme.ofColors? "1;256" = none := by decide

end Wireform.Console
