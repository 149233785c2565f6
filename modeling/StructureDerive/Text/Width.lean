import StructureDerive.Text.CellTables

/-! # Width on a terminal

How many cells a text takes on a terminal. A joiner hides the character after it, and a selector
widens the character before it where that has a picture of two cells.
-/
namespace StructureDerive.Text

def charWidth (c : Char) : Nat :=
  if c.toNat < 127 then (if c.toNat < 32 then 0 else 1)
  else if inRanges zeroWidthRanges c.toNat then 0
  else if inRanges wideRanges c.toNat then 2
  else 1

def joiner : Char := '\u200D'

def pictureSelector : Char := '\uFE0F'

/-- The cell that a selector adds to the last character with a width. -/
def pictureCells : Option Char → Nat
  | some c => if inRanges pictureRanges c.toNat then 1 else 0
  | none => 0

/-- A text that is being measured: its last character with a width, and whether the next character
is hidden by a joiner. -/
structure Measure where
  width : Nat := 0
  last : Option Char := none
  joined : Bool := false
deriving DecidableEq, Repr

def Measure.add (m : Measure) (c : Char) : Measure :=
  if m.joined then { m with joined := false }
  else if c = joiner then { m with joined := true }
  else if c = pictureSelector && m.last.isSome then
    { m with width := m.width + pictureCells m.last, last := none }
  else if charWidth c = 0 then m
  else { m with width := m.width + charWidth c, last := some c }

def width (cs : List Char) : Nat := (cs.foldl Measure.add {}).width

/-- A character with the marks, joined characters and selectors that are drawn together with it. -/
structure Cluster where
  chars : List Char
  width : Nat
deriving DecidableEq, Repr

/-- The clusters of a text so far, last one first. -/
structure Clusters where
  found : List Cluster := []
  last : Option Char := none
  joined : Bool := false

namespace Clusters

/-- Takes a character into the last cluster, which it widens by some cells. Without a cluster before
it, it makes one of no width. -/
def attach (s : Clusters) (c : Char) (cells : Nat) : Clusters :=
  match s.found with
  | cluster :: before =>
    { s with found := ⟨cluster.chars ++ [c], cluster.width + cells⟩ :: before }
  | [] => { s with found := [⟨[c], 0⟩] }

def add (s : Clusters) (c : Char) : Clusters :=
  if s.joined then { s.attach c 0 with joined := false }
  else if c = joiner then { s.attach c 0 with joined := !s.found.isEmpty }
  else if c = pictureSelector then
    let cells := pictureCells s.last
    { s.attach c cells with last := if cells = 0 then s.last else none }
  else if charWidth c = 0 then s.attach c 0
  else { s with found := ⟨[c], charWidth c⟩ :: s.found, last := some c }

end Clusters

def clusters (cs : List Char) : List Cluster := (cs.foldl Clusters.add {}).found.reverse

def tabStop : Nat := 8

/-- Fills a text up with blanks to the next tab. A tab itself takes at least one. -/
def fillTab (column : Nat) (part : List Char) : List Char × Nat :=
  let stop := column + width (part ++ [' '])
  let fill := (tabStop - stop % tabStop) % tabStop
  (part ++ ' ' :: List.replicate fill ' ', stop + fill)

/-- The parts of a line between its tabs, from a column on. -/
def joinTabs : Nat → List (List Char) → List Char
  | column, part :: next :: parts =>
    let (filled, column) := fillTab column part
    filled ++ joinTabs column (next :: parts)
  | _, [part] => part
  | _, [] => []

def withoutTabs (line : List Char) : List Char := joinTabs 0 (line.splitOn '\t')

end StructureDerive.Text
