import StructureDerive.Format.Toml.Number
import StructureDerive.Format.Toml.Text

/-! # Values in TOML

Scalars, arrays, which may go over several lines, and inline tables on one line. Arrays and inline
tables inside each other take steps of a recursion, of which there are only so many.
-/
namespace StructureDerive.Toml

abbrev Fields := List (Scalar × Value)

/-- Goes down a path of keys and changes the table there. Missing tables are made on the way; the
last table of a list stands for the list where `intoLists` allows it. -/
def changeAt (intoLists : Bool) : List String → (Fields → Option Fields) → Fields → Option Fields
  | [], change, fields => change fields
  | key :: path, change, fields =>
    match Value.lookup fields key with
    | none => (changeAt intoLists path change []).map fun inner =>
        Value.assign fields (.text key) (.table inner)
    | some (.table inner) => (changeAt intoLists path change inner).map fun inner =>
        Value.assign fields (.text key) (.table inner)
    | some (.list items) =>
      match intoLists, items.getLast? with
      | true, some (.table inner) => (changeAt intoLists path change inner).map fun inner =>
          Value.assign fields (.text key) (.list (items.dropLast ++ [.table inner]))
      | _, _ => none
    | some _ => none

def addNew (key : String) (value : Value) (fields : Fields) : Option Fields :=
  if (Value.lookup fields key).isSome then none else some (fields ++ [(.text key, value)])

def isContainer : Value → Bool
  | .list _ | .table _ => true
  | _ => false

/-- Drops a comment; it ends before the line end and holds no control character. -/
def skipComment (cs : List Char) : Option (List Char) :=
  match cs with
  | '#' :: rest =>
    if (rest.takeWhile (· ≠ '\n')).any isControl then none else some (rest.dropWhile (· ≠ '\n'))
  | _ => some cs

def skipLines : Nat → List Char → Option (List Char)
  | 0, _ => none
  | fuel + 1, cs =>
    match cs.dropWhile isSpaceOrBreak with
    | '#' :: rest => skipComment ('#' :: rest) >>= skipLines fuel
    | rest => some rest

/-- What is left of the steps that a recursion can go down after some of them. -/
def deeper (cost depth : Nat) : Option Nat := if cost ≤ depth then some (depth - cost) else none

/-- The fields of an inline table so far; values that are containers cannot be added to. -/
structure InlineTable where
  fields : Fields := []
  closed : List (List String) := []

def InlineTable.add (t : InlineTable) (key : List String) (value : Value) : Option InlineTable := do
  if t.closed.any (·.isPrefixOf key) then none
  let fields ← changeAt false key.dropLast (addNew (key.getLastD "") value) t.fields
  return ⟨fields, if isContainer value then key :: t.closed else t.closed⟩

mutual

/-- Every value takes at least one character, so the length of the input is fuel enough. An array goes
down two steps, an inline table three. -/
def value? : Nat → Nat → List Char → Option (Value × List Char)
  | 0, _, _ => none
  | fuel + 1, depth, cs =>
    match cs with
    | 't' :: 'r' :: 'u' :: 'e' :: rest => some (.bool true, rest)
    | 'f' :: 'a' :: 'l' :: 's' :: 'e' :: rest => some (.bool false, rest)
    | '[' :: rest => do
      let (items, rest) ← items? fuel (← deeper 2 depth) rest
      return (.list items, rest)
    | '\x7b' :: rest => do
      let depth ← deeper 3 depth
      match skipSpaces rest with
      | '\x7d' :: rest => return (.table [], rest)
      | rest =>
        let (fields, rest) ← pairs? fuel depth {} rest
        return (.table fields, rest)
    | _ => ((text? cs).map fun (s, rest) => (.text s, rest)) <|> number? cs

def items? : Nat → Nat → List Char → Option (List Value × List Char)
  | 0, _, _ => none
  | fuel + 1, depth, cs => do
    match ← skipLines (fuel + 1) cs with
    | ']' :: rest => return ([], rest)
    | rest =>
      let (item, rest) ← value? fuel depth rest
      match ← skipLines (fuel + 1) rest with
      | ']' :: rest => return ([item], rest)
      | ',' :: rest =>
        let (items, rest) ← items? fuel depth rest
        return (item :: items, rest)
      | _ => none

def pairs? : Nat → Nat → InlineTable → List Char → Option (Fields × List Char)
  | 0, _, _, _ => none
  | fuel + 1, depth, table, cs => do
    let (key, value, rest) ← pair? fuel depth cs
    let table ← table.add key value
    match skipSpaces rest with
    | '\x7d' :: rest => return (table.fields, rest)
    | ',' :: rest => pairs? fuel depth table (skipSpaces rest)
    | _ => none

def pair? : Nat → Nat → List Char → Option (List String × Value × List Char)
  | 0, _, _ => none
  | fuel + 1, depth, cs => do
    let (key, rest) ← key? cs
    match rest with
    | '=' :: rest =>
      let (value, rest) ← value? fuel depth (skipSpaces rest)
      return (key, value, rest)
    | _ => none

end

end StructureDerive.Toml
