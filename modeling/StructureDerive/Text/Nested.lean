import StructureDerive.Text.Blank
import StructureDerive.Text.Lines

/-! # Comma lists with brackets

Splitting at the commas that stand outside brackets. The `>` of an arrow `->` closes nothing.
-/
namespace StructureDerive.Text

/-- The bracket depth after a character, given the character before it. -/
def depthAfter (depth : Int) (before : Option Char) (c : Char) : Int :=
  if c = '<' ∨ c = '(' ∨ c = '[' then depth + 1
  else if c = ')' ∨ c = ']' ∨ (c = '>' ∧ before ≠ some '-') then depth - 1
  else depth

/-- The pieces between the commas at depth 0. -/
def piecesFrom (depth : Int) (before : Option Char) : List Char → List (List Char)
  | [] => [[]]
  | c :: rest =>
    let depth := depthAfter depth before c
    let pieces := piecesFrom depth (some c) rest
    if c = ',' ∧ depth = 0 then [] :: pieces else onFirstLine c pieces

/-- The trimmed pieces that hold more than blanks. -/
def topLevelPieces (cs : List Char) : List (List Char) :=
  ((piecesFrom 0 none cs).map trim).filter (!·.isEmpty)

def splitTopLevel (s : String) : List String := (topLevelPieces s.toList).map String.ofList

end StructureDerive.Text
