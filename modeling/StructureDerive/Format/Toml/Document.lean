import StructureDerive.Format.Toml.Value
import StructureDerive.Host

/-! # TOML documents

A document is a list of statements: pairs, and headers that say to which table the pairs below
them belong. A table is opened by one header or one group of dotted keys only, and what is written
as an inline value cannot be added to.
-/
namespace StructureDerive.Toml

/-- A declared table may not be opened by a header again, a closed one not be changed at all. -/
inductive Mark where
  | declared
  | closed
deriving DecidableEq

/-- A document so far. `pending` tables become declared at the next header. -/
structure Draft where
  fields : Fields := []
  marks : List (List String × Mark) := []
  pending : List (List String) := []
  header : List String := []

namespace Draft

def isDeclared (d : Draft) (path : List String) : Bool := d.marks.contains (path, .declared)

/-- Closing a path closes everything below it. -/
def isClosed (d : Draft) (path : List String) : Bool :=
  d.marks.any fun m => m.2 = .closed && m.1.isPrefixOf path

def settlePending (d : Draft) : Draft :=
  { d with marks := d.marks ++ d.pending.map (·, .declared), pending := [] }

def openTable (d : Draft) (path : List String) : Option Draft := do
  if d.isDeclared path || d.isClosed path then none
  let fields ← changeAt true path some d.fields
  return { d with fields, marks := (path, .declared) :: d.marks, header := path }

def addItem (key : String) (fields : Fields) : Option Fields :=
  match Value.lookup fields key with
  | none => some (Value.assign fields (.text key) (.list [.table []]))
  | some (.list items) => some (Value.assign fields (.text key) (.list (items ++ [.table []])))
  | some _ => none

/-- A header in double brackets. The tables below the item before are no longer in the way. -/
def openItem (d : Draft) (path : List String) : Option Draft := do
  if d.isClosed path then none
  let marks := (path, .declared) :: d.marks.filter fun m => !path.isPrefixOf m.1
  let fields ← changeAt true path.dropLast (addItem (path.getLastD "")) d.fields
  return { d with fields, marks, header := path }

def addPair (d : Draft) (key : List String) (value : Value) : Option Draft := do
  let opened := (List.range (key.length - 1)).map fun n => d.header ++ key.take (n + 1)
  if opened.any d.isDeclared then none
  let parent := d.header ++ key.dropLast
  if d.isClosed parent then none
  let fields ← changeAt true parent (addNew (key.getLastD "") value) d.fields
  let marks := if isContainer value then (d.header ++ key, .closed) :: d.marks else d.marks
  return { d with fields, marks, pending := d.pending ++ opened }

variable [Host]

def statement (d : Draft) (fuel : Nat) (cs : List Char) : Option (Draft × List Char) :=
  match cs with
  | '[' :: '[' :: rest => do
    let (path, rest) ← key? (skipSpaces rest)
    match rest with
    | ']' :: ']' :: rest => return (← d.settlePending.openItem path, rest)
    | _ => none
  | '[' :: rest => do
    let (path, rest) ← key? (skipSpaces rest)
    match rest with
    | ']' :: rest => return (← d.settlePending.openTable path, rest)
    | _ => none
  | _ => do
    let (key, value, rest) ← pair? fuel Host.depthLimit cs
    return (← d.addPair key value, rest)

/-- The statements of the remaining lines. Each line takes at least one character. -/
def lines (d : Draft) : Nat → List Char → Option Draft
  | 0, _ => none
  | fuel + 1, cs => do
    let (d, rest) ← match skipSpaces cs with
      | [] => pure (d, [])
      | '\n' :: rest => pure (d, '\n' :: rest)
      | '#' :: rest => pure (d, '#' :: rest)
      | c :: rest => d.statement (fuel + 1) (c :: rest)
    match ← skipComment (skipSpaces rest) with
    | [] => return d
    | '\n' :: rest => d.lines fuel rest
    | _ => none

end Draft

def joinLineEnds : List Char → List Char
  | '\r' :: '\n' :: rest => '\n' :: joinLineEnds rest
  | c :: rest => c :: joinLineEnds rest
  | [] => []

variable [Host]

def parse (s : String) : Option Value :=
  let cs := joinLineEnds s.toList
  (Draft.lines {} (2 * cs.length + 2) cs).map fun d => .table d.fields

def parseBytes (content : ByteArray) : Option Value := String.fromUTF8? content >>= parse

end StructureDerive.Toml
