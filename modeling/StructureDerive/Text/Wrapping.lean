import StructureDerive.Text.Blank
import StructureDerive.Text.Width

/-! # Wrapping

Breaking a line between words so that each part fits a width. A word that fits no line is either
cut or left as it is.
-/
namespace StructureDerive.Text

def wordStarts : List Char → List (List Char)
  | [] => []
  | c :: rest =>
    match wordStarts rest with
    | (d :: word) :: more =>
      if isBlank c && !isBlank d then [c] :: (d :: word) :: more else (c :: d :: word) :: more
    | _ => [[c]]

/-- Words with the blanks after them; the first one also has those before it. -/
def words (cs : List Char) : List (List Char) :=
  match wordStarts cs with
  | first :: second :: more =>
    if first.all isBlank then (first ++ second) :: more else first :: second :: more
  | pieces => pieces

def chop (limit : Nat) : Nat → List Cluster → List (List Char)
  | _, [] => [[]]
  | taken, c :: rest =>
    if limit < taken + c.width then
      match chop limit c.width rest with
      | part :: more => [] :: (c.chars ++ part) :: more
      | [] => [[], c.chars]
    else
      match chop limit (taken + c.width) rest with
      | part :: more => (c.chars ++ part) :: more
      | [] => [c.chars]

/-- The lines so far, last one first, and the width of the last one. -/
structure Wrapped where
  lines : List (List Char) := [[]]
  used : Nat := 0

def Wrapped.extend (w : Wrapped) (part : List Char) : Wrapped :=
  match w.lines with
  | line :: done => { lines := (line ++ part) :: done, used := w.used + width part }
  | [] => { lines := [part], used := width part }

def Wrapped.next (w : Wrapped) (part : List Char) : Wrapped :=
  { lines := part :: w.lines, used := width part }

def Wrapped.add (limit : Nat) (cut : Bool) (w : Wrapped) (word : List Char) : Wrapped :=
  let size := width (trimRight word)
  let isFirst := w.lines.all (·.isEmpty)
  if w.used + size ≤ limit then w.extend word
  else if cut && limit < size then
    match chop limit 0 (clusters word) with
    | first :: parts =>
      parts.foldl Wrapped.next (if isFirst then w.extend first else w.next first)
    | [] => w
  else if isFirst then w.extend word
  else w.next word

/-- The lines of a text without line feeds, each within the limit but for blanks at its end and
for long words that are not cut. -/
def wrap (limit : Nat) (cut : Bool) (cs : List Char) : List (List Char) :=
  ((words cs).foldl (Wrapped.add limit cut) {}).lines.reverse

/-- Drops blanks at the end as far as a line is longer than the limit. -/
def dropExcessBlanks (limit : Nat) (line : List Char) : List Char :=
  let blanks := line.length - (trimRight line).length
  line.take (line.length - min blanks (line.length - limit))

/-- As much of a line as fits a width. A wide cluster that is cut leaves a blank. -/
def crop : Nat → List Cluster → List Char
  | 0, _ | _, [] => []
  | limit, c :: rest =>
    if c.width ≤ limit then c.chars ++ crop (limit - c.width) rest else [' ']

def fitted (limit : Nat) (line : List Char) : List Char :=
  if width line ≤ limit then line else crop limit (clusters line)

def ellipsis (limit : Nat) (line : List Char) : List Char :=
  if width line ≤ limit then line else crop (limit - 1) (clusters line) ++ ['…']

def wrappedLines (limit : Nat) (cut : Bool) (cs : List Char) : List (List Char) :=
  (cs.splitOn '\n').flatMap fun line =>
    (wrap limit cut (withoutTabs line)).map (dropExcessBlanks limit)

def croppedLines (limit : Nat) (cs : List Char) : List (List Char) :=
  (cs.splitOn '\n').map fun line => fitted limit (dropExcessBlanks limit (withoutTabs line))

/-- The number of cells in a line of the console. -/
def consoleWidth : Nat := 1000

end StructureDerive.Text
