import StructureDerive.Text.Matching

/-! # Similar texts

How much of two texts is common to both, and the candidates that resemble a given text most.
-/
namespace StructureDerive.Text

/-- How many characters of a candidate are common to it and the given text. -/
def commonCount (candidate given : List Char) : Nat :=
  ((Matching.blocks candidate given).map (·.size)).foldr (· + ·) 0

/-- Twice the common characters over all characters of both texts. -/
structure Similarity where
  twiceCommon : Nat
  total : Nat
  candidate : String

def Similarity.of (given candidate : String) : Similarity :=
  let (cs, gs) := (candidate.toList, given.toList)
  ⟨2 * commonCount cs gs, cs.length + gs.length, candidate⟩

/-- At least three fifths are common. -/
def Similarity.isClose (s : Similarity) : Bool := 3 * s.total ≤ 5 * s.twiceCommon

/-- Of equally similar candidates the later one in the order of texts goes first. -/
def Similarity.before (a b : Similarity) : Bool :=
  let (x, y) := (a.twiceCommon * b.total, b.twiceCommon * a.total)
  y < x || (x = y && b.candidate ≤ a.candidate)

def suggestionLimit : Nat := 3

def suggestions (given : String) (candidates : List String) : List String :=
  let close := (candidates.map (Similarity.of given)).filter (·.isClose)
  let best := (close.mergeSort Similarity.before).take suggestionLimit
  (best.map (·.candidate)).mergeSort

end StructureDerive.Text
