import StructureDerive.Text.Matching

/-! # Differences of two texts

The lines of two texts are matched, and the changed parts are shown with three unchanged lines around
them.
-/
namespace StructureDerive.Diff

open Matching (Block)

def joined : List Block → List Block
  | [] => []
  | b :: rest =>
    match joined rest with
    | c :: more =>
      if b.old + b.size = c.old && b.new + b.size = c.new then
        ⟨b.old, b.new, b.size + c.size⟩ :: more
      else b :: c :: more
    | [] => [b]

/-- A part of both texts, which is equal or has changed. The ends do not belong to it. -/
structure Part where
  equal : Bool
  oldStart : Nat
  oldEnd : Nat
  newStart : Nat
  newEnd : Nat
deriving DecidableEq, Repr

def partsFrom (oldEnd newEnd i j : Nat) : List Block → List Part
  | [] => if i < oldEnd || j < newEnd then [⟨false, i, oldEnd, j, newEnd⟩] else []
  | b :: rest =>
    (if i < b.old || j < b.new then [⟨false, i, b.old, j, b.new⟩] else []) ++
      ⟨true, b.old, b.old + b.size, b.new, b.new + b.size⟩ ::
        partsFrom oldEnd newEnd (b.old + b.size) (b.new + b.size) rest

def parts (old new : List String) : List Part :=
  partsFrom old.length new.length 0 0 (joined (Matching.blocks old new))

def contextLines : Nat := 3

def Part.keepEnd (p : Part) : Part :=
  { p with oldStart := max p.oldStart (p.oldEnd - contextLines)
           newStart := max p.newStart (p.newEnd - contextLines) }

def Part.keepStart (p : Part) : Part :=
  { p with oldEnd := min p.oldEnd (p.oldStart + contextLines)
           newEnd := min p.newEnd (p.newStart + contextLines) }

def trimmed (ps : List Part) : List Part :=
  let trimHead : List Part → List Part
    | p :: rest => (if p.equal then p.keepEnd else p) :: rest
    | [] => []
  let trimLast (ps : List Part) : List Part :=
    match ps.getLast? with
    | some p => ps.dropLast ++ [if p.equal then p.keepStart else p]
    | none => []
  trimLast (trimHead ps)

/-- Parts that are shown together; a long equal part ends one group and opens the next. -/
def groups (current : List Part) : List Part → List (List Part)
  | [] => if current.all (·.equal) then [] else [current]
  | p :: rest =>
    if p.equal && 2 * contextLines < p.oldEnd - p.oldStart then
      (current ++ [p.keepStart]) :: groups [p.keepEnd] rest
    else groups (current ++ [p]) rest

def range (start stop : Nat) : String :=
  if stop - start = 1 then s!"{start + 1}"
  else if stop = start then s!"{start},0"
  else s!"{start + 1},{stop - start}"

def slice (lines : List String) (start stop : Nat) : List String :=
  (lines.drop start).take (stop - start)

def Part.lines (old new : List String) (p : Part) : List String :=
  if p.equal then (slice old p.oldStart p.oldEnd).map (" " ++ ·)
  else (slice old p.oldStart p.oldEnd).map ("-" ++ ·) ++
    (slice new p.newStart p.newEnd).map ("+" ++ ·)

def groupLines (old new : List String) (group : List Part) : List String :=
  match group.head?, group.getLast? with
  | some first, some last =>
    s!"@@ -{range first.oldStart last.oldEnd} +{range first.newStart last.newEnd} @@\n" ::
      group.flatMap (·.lines old new)
  | _, _ => []

/-- The difference of two lists of lines, which keep their line ends; empty if there is none. -/
def unified (oldName newName : String) (old new : List String) : String :=
  let shown := (groups [] (trimmed (parts old new))).flatMap (groupLines old new)
  if shown.isEmpty then "" else String.join (s!"--- {oldName}\n" :: s!"+++ {newName}\n" :: shown)

end StructureDerive.Diff
