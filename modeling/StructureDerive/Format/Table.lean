import StructureDerive.Number.Binary64
import StructureDerive.Screen
import StructureDerive.Text.Lines
import StructureDerive.Text.Wrapping

/-! # Tables on a console

A table with a heavy head: a title centred above it, and columns as wide as their widest cell.
-/
namespace StructureDerive.Table

abbrev Line := List Char

def padding (n : Nat) : Line := List.replicate n ' '

def aligned (alignRight : Bool) (width : Nat) (line : Line) : Line :=
  let text := Text.ellipsis width (if alignRight then Text.trimRight line else line)
  let blanks := padding (width - Text.width text)
  if alignRight then blanks ++ text else text ++ blanks

/-- The width of the longest line. Tabs count for nothing here. -/
def widest (cells : List String) : Nat :=
  ((cells.flatMap Text.lines).map fun line => Text.width line.toList).foldl max 0

def neededWidths (t : Table) : List Nat :=
  t.columns.zipIdx.map fun (column, i) =>
    widest (column.header :: t.rows.map fun row => row.getD i "") + 2

/-- Takes an excess in equal shares from the widths that equal `most`, at most `step` from each. The
shares are rounded. -/
def takeShares (most step : Nat) : Nat → Nat → List Nat → List Nat
  | _, _, [] => []
  | excess, sharers, width :: rest =>
    if width = most then
      let share := min step (Binary64.roundQuotient excess sharers)
      (width - share) :: takeShares most step (excess - share) (sharers - 1) rest
    else width :: takeShares most step excess sharers rest

/-- Narrows the widest columns to the width of the next ones, until all fit a limit. -/
def narrowed (limit : Nat) : Nat → List Nat → List Nat
  | 0, widths => widths
  | fuel + 1, widths =>
    let excess := widths.foldr (· + ·) 0 - limit
    let most := widths.foldl max 0
    let next := (widths.filter (· ≠ most)).foldl max 0
    if excess = 0 || most = 0 then widths
    else
      narrowed limit fuel
        (takeShares most (min excess (most - next)) excess (widths.count most) widths)

def columnWidths (t : Table) : List Nat :=
  let limit := Text.consoleWidth - (t.columns.length + 1)
  (narrowed limit (2 * t.columns.length + 1) (t.neededWidths.map (min limit))).map (· - 2)

def width (t : Table) : Nat := (t.columnWidths.map (· + 3)).foldr (· + ·) 0 + 1

def barred (bar : Char) (cells : List Line) : Line :=
  bar :: (cells.flatMap fun cell => ' ' :: cell ++ [' ', bar])

def rowLines (t : Table) (bar : Char) (row : List String) : List Line :=
  let cells := (t.columns.zip (t.columnWidths.zip row)).map fun (column, width, cell) =>
    (Text.wrappedLines width false cell.toList).map (aligned column.alignRight width)
  let height := (cells.map (·.length)).foldl max 1
  (List.range height).map fun i =>
    barred bar <| (t.columnWidths.zip cells).map fun (width, lines) =>
      lines.getD i (padding width)

def rule (t : Table) (left fill crossing right : Char) : Line :=
  let parts := t.columnWidths.map fun width => List.replicate (width + 2) fill
  left :: [crossing].intercalate parts ++ [right]

def titleLines (t : Table) : List Line :=
  (Text.wrappedLines t.width true t.title.toList).map fun line =>
    let text := Text.fitted t.width (Text.trimRight line)
    padding ((t.width - Text.width text) / 2) ++ text

/-- All lines. A table without rows still has its head and its lower border. -/
def lines (t : Table) : List Line :=
  t.titleLines ++
    [t.rule '┏' '━' '┳' '┓'] ++ t.rowLines '┃' (t.columns.map (·.header)) ++
    [t.rule '┡' '━' '╇' '┩'] ++ t.rows.flatMap (t.rowLines '│') ++ [t.rule '└' '─' '┴' '┘']

def render (t : Table) : String :=
  String.ofList (t.lines.flatMap (· ++ ['\n']))

end StructureDerive.Table
