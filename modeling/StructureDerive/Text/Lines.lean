/-! # Lines

Where a text breaks into lines, and the reading of foreign line ends.
-/
namespace StructureDerive.Text

/-- Characters that end a line. A carriage return followed by a line feed is one break. -/
def isLineBreak (c : Char) : Bool :=
  let n := c.toNat
  (10 ≤ n && n ≤ 13) || (28 ≤ n && n ≤ 30) || n == 0x85 || n == 0x2028 || n == 0x2029

def onFirstLine (c : Char) : List (List Char) → List (List Char)
  | [] => [[c]]
  | line :: rest => (c :: line) :: rest

/-- The lines of a text with their breaks. A break at the end of the text opens no further line. -/
def linesWithBreaks : List Char → List (List Char)
  | [] => []
  | '\r' :: '\n' :: rest => ['\r', '\n'] :: linesWithBreaks rest
  | c :: rest =>
    if isLineBreak c then [c] :: linesWithBreaks rest else onFirstLine c (linesWithBreaks rest)

def dropLineBreak (line : List Char) : List Char := line.takeWhile (!isLineBreak ·)

def lines (s : String) : List String :=
  (linesWithBreaks s.toList).map fun line => String.ofList (dropLineBreak line)

def indent (margin s : String) : List String := (lines s).map (margin ++ ·)

/-- Carriage returns, alone or before a line feed, are read as line feeds. -/
def foldReturns : List Char → List Char
  | [] => []
  | '\r' :: '\n' :: rest => '\n' :: foldReturns rest
  | c :: rest => (if c = '\r' then '\n' else c) :: foldReturns rest

/-- A text from a column on, with its tabs filled up to the next multiple of a number of columns. Each
character takes one column. -/
def expandColumns (size : Nat) : Nat → List Char → List Char
  | _, [] => []
  | column, c :: rest =>
    if c = '\t' then
      let fill := size - column % size
      List.replicate fill ' ' ++ expandColumns size (column + fill) rest
    else if c = '\n' ∨ c = '\r' then c :: expandColumns size 0 rest
    else c :: expandColumns size (column + 1) rest

end StructureDerive.Text
