/-! # Layout

Documents whose lines break where they would get too long. A document is text with gaps between
its pieces; a gap is either some blanks or the end of a line. Gaps are gathered in boxes: a box that
fits on the rest of its line keeps all of its gaps as blanks, and any other box ends a line at its
gaps. -/

namespace Wireform.Text

/-- A place between two pieces of text. -/
structure Gap where
  /-- How many blanks the gap is, if it is no line end. -/
  blanks : Nat
  /-- How much further than its box the next line is indented. -/
  shift : Int
  /-- What stands at the end of the line, if the gap is one. -/
  mark : Option Char
  /-- What stands at the start of the next line. -/
  opening : String
  /-- What stands in the place of the gap, if it is no line end. It takes no room in a box. -/
  filler : String
  /-- Whether the gap goes away where nothing follows it in its box. -/
  optional : Bool
  /-- Whether the gap stays blanks even if its box ends lines. -/
  solid : Bool
  deriving DecidableEq, Repr, Inhabited

/-- When the gaps of a box that does not fit are line ends. -/
inductive BoxKind where
  /-- Every gap is one. -/
  | stacked
  /-- A gap is one if what follows it does not fit, up to the next gap. -/
  | filled
  deriving DecidableEq, Repr, Inhabited

inductive Doc where
  | text (content : String)
  | gap (gap : Gap)
  /-- Nothing that is written, but it counts as this much where a box is measured. -/
  | strut (width : Nat)
  /-- A box, whose lines are indented by `shift` more than what is around it. -/
  | box (kind : BoxKind) (shift : Int) (content : List Doc)
  deriving Repr, Inhabited

namespace Layout

/-- The longest line that counts as fitting. -/
def margin : Int := 89

/-- However far a line is indented, it may hold this much. -/
def leastSpace : Int := 60

/-- What a line end counts as: more than any line can hold. -/
def endless : Nat := 65535

def indent : Int := 4

end Layout

namespace Gap

def empty : Gap := ⟨0, 0, none, "", "", false, false⟩

def blank : Gap := { empty with blanks := 1 }

/-- The end of a line. Its box cannot fit. -/
def lineEnd : Gap := { empty with blanks := Layout.endless }

/-- The end of a line, unless nothing comes before the end of the box. -/
def optionalLineEnd : Gap := { lineEnd with optional := true }

def solidEmpty : Gap := { empty with solid := true }

/-- A blank, unless nothing comes before the end of the box. -/
def optionalBlank : Gap := { blank with optional := true }

/-- The gap after the last item of a list: it is a comma if its line ends there. -/
def afterLast : Gap := { empty with mark := some ',' }

def blankAfterLast : Gap := { blank with mark := some ',' }

/-- The same gap one level further out. -/
def outward (gap : Gap) : Gap := { gap with shift := gap.shift - Layout.indent }

end Gap

namespace Doc

mutual
/-- The width of a document without line ends. -/
def width : Doc → Nat
  | .text content => content.utf8ByteSize
  | .gap space => space.blanks
  | .strut width => width
  | .box _ _ content => widthAll content

def widthAll : List Doc → Nat
  | [] => 0
  | head :: tail => head.width + widthAll tail
end

/-- The width up to the first gap. If there is none, `after` is the width from the end of these
documents up to the next gap. -/
def runWidth (after : Nat) : List Doc → Nat
  | [] => after
  | .gap _ :: _ => 0
  | head :: tail => head.width + runWidth after tail

/-- A box. A last gap that is optional is left out, and so is a gap that is all there is. -/
def boxed (kind : BoxKind) (shift : Int) (content : List Doc) : Doc :=
  let content := match content.getLast? with
    | some (.gap last) => if last.optional then content.dropLast else content
    | _ => content
  match content with
  | [.gap _] => .box kind shift []
  | content => .box kind shift content

/-- A box whose gaps are line ends together. -/
def stack (shift : Int) (content : List Doc) : Doc := boxed .stacked shift content

/-- A box whose gaps are line ends where they have to be. -/
def fill (shift : Int) (content : List Doc) : Doc := boxed .filled shift content

/-- A box whose gaps are line ends together, and that counts as too wide for any line if its content
is wider than `most`. -/
def narrow (most : Nat) (shift : Int) (content : List Doc) : Doc :=
  stack shift (if widthAll content > most then content ++ [.strut Layout.endless] else content)

/-- Takes the last gap of a box one level out, for the closing mark behind the box. -/
def closing (content : List Doc) : List Doc :=
  match content.getLast? with
  | some (.gap last) => content.dropLast ++ [.gap last.outward]
  | _ => content

/-- Items with a comma and a gap after each. The last comma stands only at the end of a line. -/
def commaSeparated : List (List Doc) → List Doc
  | [] => []
  | [last] => last ++ [.gap .afterLast]
  | head :: tail => head ++ [.text ",", .gap .blank] ++ commaSeparated tail

/-- A list of items, indented by `shift` where it takes more than one line. -/
def items (shift : Int) (list : List (List Doc)) : Doc :=
  stack shift (closing (.gap .empty :: commaSeparated list))

def joined (mark : String) : List (List Doc) → List Doc
  | [] => []
  | [last] => last
  | head :: tail => head ++ .text mark :: joined mark tail

end Doc

/-! ## Rendering -/

structure Page where
  text : String
  /-- How much the current line can still hold. -/
  space : Int
  /-- Blanks that are written only if more text follows on their line. -/
  pending : Nat
  deriving Repr, Inhabited

namespace Page

def blank : Page := ⟨"", Layout.margin, 0⟩

def settled (page : Page) : Page :=
  { page with text := page.text ++ "".pushn ' ' page.pending, pending := 0 }

def write (page : Page) (content : String) : Page :=
  let page := page.settled
  { page with text := page.text ++ content, space := page.space - content.utf8ByteSize }

/-- Leaves blanks, which are not written at the end of a line. -/
def skip (page : Page) (blanks : Nat) : Page :=
  { page with pending := page.pending + blanks, space := page.space - blanks }

def endLine (page : Page) (mark : Option Char) (indent : Int) : Page :=
  let page := match mark with
    | some symbol => { page.settled with text := page.settled.text.push symbol }
    | none => page
  ⟨page.text ++ "\n", max (Layout.margin - indent) Layout.leastSpace, indent.toNat⟩

/-- Writes what stands in the place of a gap, if anything does. -/
def fill (page : Page) (content : String) : Page :=
  if content.isEmpty then page
  else { page with text := page.text ++ content, space := page.space - content.utf8ByteSize }

end Page

/-- How the gaps around a document are written: as blanks if their box fits. -/
inductive Surroundings where
  | fitting
  | broken (kind : BoxKind)
  deriving DecidableEq, Repr, Inhabited

/-- Writes a gap, behind which there is text of width `run` up to the next gap. -/
def Gap.render (gap : Gap) (surroundings : Surroundings) (indent : Int) (run : Nat) (page : Page) :
    Page :=
  let fits : Bool := gap.solid || match surroundings with
    | .fitting => true
    | .broken .stacked => false
    | .broken .filled => ((gap.blanks + run : Nat) : Int) ≤ page.space
  if fits then (page.skip gap.blanks).fill gap.filler
  else
    let next := page.endLine gap.mark (indent + gap.shift)
    if gap.opening.isEmpty then next else next.write gap.opening

namespace Doc

mutual
def render (surroundings : Surroundings) (indent : Int) (run : Nat) : Doc → Page → Page
  | .text content, page => page.write content
  | .gap space, page => space.render surroundings indent run page
  | .strut _, page => page
  | .box kind shift content, page =>
    if ((widthAll content + run : Nat) : Int) ≤ page.space then
      renderAll .fitting indent run content page
    else renderAll (.broken kind) (indent + shift) run content page

def renderAll (surroundings : Surroundings) (indent : Int) (after : Nat) :
    List Doc → Page → Page
  | [], page => page
  | head :: tail, page =>
    renderAll surroundings indent after tail
      (render surroundings indent (runWidth after tail) head page)
end

def textOf (content : List Doc) : String :=
  (renderAll (.broken .filled) 0 0 content .blank).text

example : textOf [stack 4 [.text "f(", .gap .empty, .text "x", .gap Gap.empty.outward, .text ")"]] =
    "f(x)" := by cbv

end Doc

end Wireform.Text
