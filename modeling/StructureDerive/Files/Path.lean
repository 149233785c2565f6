/-! # Paths

Paths in a normal form: empty and `.` segments are dropped, `..` is kept. Exactly two slashes in
front are kept apart from one.
-/
namespace StructureDerive

/-- `root` is the slashes in front: none for a relative path. -/
structure Path where
  root : String := ""
  segments : List String := []
deriving DecidableEq, Repr

namespace Path

def rootOf : List Char → String
  | '/' :: '/' :: '/' :: _ => "/"
  | '/' :: '/' :: _ => "//"
  | '/' :: _ => "/"
  | _ => ""

def segmentsOf (cs : List Char) : List String :=
  ((cs.splitOn '/').map String.ofList).filter fun s => s ≠ "" ∧ s ≠ "."

def ofString (s : String) : Path := ⟨rootOf s.toList, segmentsOf s.toList⟩

def isAbsolute (p : Path) : Bool := p.root ≠ ""

def text (p : Path) : String :=
  if p.root = "" ∧ p.segments.isEmpty then "." else p.root ++ "/".intercalate p.segments

/-- An absolute path stands for itself below any other. -/
def join (base p : Path) : Path :=
  if p.isAbsolute then p else { base with segments := base.segments ++ p.segments }

def name (p : Path) : String := p.segments.getLastD ""

def parent (p : Path) : Path := { p with segments := p.segments.dropLast }

/-- The end of a name from its last point on, which neither opens nor ends the name. -/
def suffix (p : Path) : String :=
  let cs := p.name.toList
  let ending := (cs.reverse.takeWhile (· ≠ '.')).reverse
  if ending.isEmpty ∨ cs.length ≤ ending.length + 1 then "" else String.ofList ('.' :: ending)

end Path
end StructureDerive
