import Wireform.Text.Cluster
import Wireform.Text.Width

/-! # Tables

Tables that fit into the width of a terminal. Columns are as wide as their longest cell if there is
room, and the cells of the other columns go over several lines. -/

namespace Wireform.Console

open Wireform.Text

inductive Alignment where
  | left
  | right
  deriving DecidableEq, Repr, Inhabited

/-- A table: titles, the alignment of each column below its title, and rows of as many cells. -/
structure Table where
  titles : List String
  alignments : List Alignment
  rows : List (List String)
  deriving DecidableEq, Repr, Inhabited

namespace Table

/-! ## Lines of a cell -/

/-- A line with less than this much space left is complete. -/
def leastRest : Nat := 2

/-- The clusters that fit into this space, one after another, and the letters of the others. -/
def fittingClusters (space : Nat) : List (List Char) → List Char × List Char
  | [] => ([], [])
  | cluster :: rest =>
    if widthOf cluster ≤ space then
      let (fitting, more) := fittingClusters (space - widthOf cluster) rest
      (cluster ++ fitting, more)
    else ([], (cluster :: rest).flatten)

def splitWord (space : Nat) (word : List Char) : List Char × List Char :=
  fittingClusters space (clusters word)

/-- A part of a word that fits into an empty line, and the rest. It has at least one character. -/
def splitFirst (space : Nat) (word : List Char) : List Char × List Char :=
  match splitWord space word, word with
  | ([], _), first :: rest => ([first], rest)
  | parts, _ => parts

/-- Adds a line that is complete if it leaves no space to speak of. -/
def completed (width : Nat) (line : List Char) : List (List Char) × List Char :=
  if widthOf line > width - leastRest then ([line], []) else ([], line)

def extended (line word : List Char) : List Char :=
  if line.isEmpty then word else line ++ ' ' :: word

/-- Fills lines with words. A word that is longer than a line is split; the rest of it is a word
again, so as much fuel as there are words and characters, twice, is enough. -/
def fillLines (width : Nat) :
    (fuel : Nat) → (line : List Char) → List (List Char) → List (List Char)
  | 0, line, _ => [line]
  | _, line, [] => if line.isEmpty then [] else [line]
  | fuel + 1, line, word :: words =>
    let fresh := line.isEmpty
    let between := if fresh then 0 else 1
    let space := width - widthOf line - between
    if widthOf line + between + widthOf word ≤ width then
      let (lines, line) := completed width (extended line word)
      lines ++ fillLines width fuel line words
    else if !fresh && space ≤ leastRest then
      line :: fillLines width fuel [] (word :: words)
    else if widthOf word > width then
      let (fitting, rest) := if fresh then splitFirst space word else splitWord space word
      let (lines, line) := completed width (extended line fitting)
      lines ++ fillLines width fuel line (rest :: words)
    else
      let (lines, next) := completed width word
      line :: lines ++ fillLines width fuel next words

/-- The parts of a text between these characters. -/
def partsBetween (separator : Char) : List Char → List (List Char)
  | [] => [[]]
  | letter :: rest =>
    if letter = separator then [] :: partsBetween separator rest
    else
      match partsBetween separator rest with
      | [] => [[letter]]
      | first :: more => (letter :: first) :: more

def writtenLines (cell : String) : List (List Char) := partsBetween '\n' cell.toList

def splitLine (width : Nat) (line : List Char) : List (List Char) :=
  if widthOf line ≤ width then [line]
  else fillLines width (4 * line.length + 4) [] (partsBetween ' ' line)

def cellLines (width : Nat) (cell : String) : List (List Char) :=
  (writtenLines cell).flatMap (splitLine width)

/-! ## Widths of columns -/

def columns (table : Table) : List (List String) :=
  table.titles.zipIdx.map fun (title, index) =>
    title :: table.rows.map fun row => row.getD index ""

def longest (cells : List String) : Nat :=
  ((cells.flatMap writtenLines).map widthOf).foldl max 0

def byteLength (letters : List Char) : Nat := (letters.map Char.utf8Size).foldl (· + ·) 0

/-- A column, and its width once that is settled. -/
structure Column where
  cells : List String
  width : Option Nat
  deriving Repr, Inhabited

/-- How much space is left, and how many columns share it. -/
structure Share where
  space : Nat
  count : Nat
  deriving Repr, Inhabited

def Share.average (share : Share) : Nat := share.space / share.count

def Share.without (share : Share) (width : Nat) : Share := ⟨share.space - width, share.count - 1⟩

/-- Settles columns from left to right: `choose` gives the width of a column for which the average
is enough. -/
def settleOnce (choose : (average : Nat) → Column → Option Nat) :
    Share → List Column → Share × List Column
  | share, [] => (share, [])
  | share, column :: rest =>
    let chosen := if column.width.isSome || share.count = 0 then none
      else choose share.average column
    match chosen with
    | some width =>
      let (share, rest) := settleOnce choose (share.without width) rest
      (share, { column with width := some width } :: rest)
    | none =>
      let (share, rest) := settleOnce choose share rest
      (share, column :: rest)

/-- Settles columns until none is left or no other can be settled. Every round but the last settles
a column. -/
def settle (choose : (average : Nat) → Column → Option Nat) :
    (rounds : Nat) → Share → List Column → Share × List Column
  | 0, share, columns => (share, columns)
  | rounds + 1, share, columns =>
    let (next, columns) := settleOnce choose share columns
    if next.count = share.count then (next, columns) else settle choose rounds next columns

def fits (average : Nat) (column : Column) : Option Nat :=
  let width := longest column.cells
  if average ≠ 0 ∧ width ≤ average then some width else none

/-- A column whose cells leave space when they go over several lines. Here a line counts for as much
as its bytes. -/
def fitsWhenSplit (average : Nat) (column : Column) : Option Nat :=
  let width := ((column.cells.flatMap (cellLines average)).map byteLength).foldl max 0
  if average - width ≥ 3 then some width else none

/-- Gives the columns that are left equal widths. The first ones get what remains. -/
def distribute (average : Nat) : (excess : Nat) → List Column → List Nat
  | _, [] => []
  | excess, column :: rest =>
    match column.width, excess with
    | some width, excess => width :: distribute average excess rest
    | none, 0 => average :: distribute average 0 rest
    | none, excess + 1 => (average + 1) :: distribute average excess rest

/-- The widths of the columns in a table that is this wide, with a blank on both sides of each cell
and a blank between any two columns. -/
def columnWidths (table : Table) (width : Nat) : List Nat :=
  let columns := table.columns.map fun cells => Column.mk cells none
  let count := columns.length
  let share : Share := ⟨width - (count - 1) - 2 * count, count⟩
  let (share, columns) := settle fits count share columns
  let (share, columns) := settle fitsWhenSplit count share columns
  let space := max share.space share.count
  distribute (space / share.count) (space % share.count) columns

/-! ## Rendering -/

def padded (alignment : Alignment) (width : Nat) (letters : List Char) : String :=
  let text := String.ofList letters
  let blanks := "".pushn ' ' (width - widthOf letters)
  match alignment with
  | .left => " " ++ text ++ blanks ++ " "
  | .right => " " ++ blanks ++ text ++ " "

def rowLines (widths : List Nat) (alignments : List Alignment) (row : List String) :
    List String :=
  let cells := (widths.zip alignments).zipIdx.map fun ((width, alignment), index) =>
    (width, alignment, cellLines width (row.getD index ""))
  let height := (cells.map fun (_, _, lines) => lines.length).foldl max 0
  (List.range height).map fun line =>
    " ".intercalate (cells.map fun (width, alignment, lines) =>
      padded alignment width (lines.getD line []))

def rule (widths : List Nat) (crossing : String) : String :=
  crossing.intercalate (widths.map fun width => "".pushn '─' (width + 2))

def lines (table : Table) (width : Nat) : List String :=
  let widths := table.columnWidths width
  let border := rule widths " "
  let leftAligned := widths.map fun _ => Alignment.left
  [border] ++ rowLines widths leftAligned table.titles ++ [rule widths "─"] ++
    table.rows.flatMap (rowLines widths table.alignments) ++ [border]

end Table

end Wireform.Console
