/-! # Edit distance

The least number of single-character insertions, deletions and replacements between two texts,
row by row: the row of a prefix holds its distances to all prefixes of the other text.
-/
namespace StructureDerive.Text

/-- The entries of the next row after `left`, from the entries above and the characters of the
other text. -/
def extendRow (c : Char) : List Char → List Nat → Nat → List Nat
  | d :: ds, diagonal :: above :: row, left =>
    let here := min (min (above + 1) (left + 1)) (diagonal + if c = d then 0 else 1)
    here :: extendRow c ds (above :: row) here
  | _, _, _ => []

def nextRow (other : List Char) (row : List Nat) (c : Char) : List Nat :=
  let first := row.headD 0 + 1
  first :: extendRow c other row first

/-- The row after all characters of the longer text. -/
def lastRow (long short : List Char) : List Nat :=
  long.foldl (nextRow short) (List.range (short.length + 1))

/-- Rows run along the shorter text. -/
def editDistance (a b : String) : Nat :=
  let (long, short) :=
    if a.toList.length < b.toList.length then (b.toList, a.toList) else (a.toList, b.toList)
  (lastRow long short).getLastD 0

end StructureDerive.Text
