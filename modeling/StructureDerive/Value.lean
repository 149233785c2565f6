import StructureDerive.Number.Moment
import StructureDerive.Number.Shortest
import StructureDerive.Text.Search

/-! # Raw values

What a document holds before it is given a meaning: scalars and collections of them. A table keeps its
keys, which are scalars, in the order in which they were first written.
-/
namespace StructureDerive

inductive Scalar where
  | null
  | bool (b : Bool)
  | int (n : Int)
  | real (x : Binary64)
  | text (s : String)
  | bytes (content : List UInt8)
  | date (d : Date)
  | clock (c : Clock)
  | moment (m : Moment)
deriving DecidableEq, Repr, Inhabited

/-- A set holds its items in the order in which it is gone through. -/
inductive Value where
  | scalar (s : Scalar)
  | list (items : List Value)
  | tuple (items : List Value)
  | set (items : List Scalar)
  | table (fields : List (Scalar × Value))
deriving Inhabited

namespace Value

@[match_pattern] abbrev null : Value := .scalar .null
@[match_pattern] abbrev bool (b : Bool) : Value := .scalar (.bool b)
@[match_pattern] abbrev int (n : Int) : Value := .scalar (.int n)
@[match_pattern] abbrev real (x : Binary64) : Value := .scalar (.real x)
@[match_pattern] abbrev text (s : String) : Value := .scalar (.text s)
@[match_pattern] abbrev bytes (content : List UInt8) : Value := .scalar (.bytes content)
@[match_pattern] abbrev date (d : Date) : Value := .scalar (.date d)
@[match_pattern] abbrev clock (c : Clock) : Value := .scalar (.clock c)
@[match_pattern] abbrev moment (m : Moment) : Value := .scalar (.moment m)

end Value

namespace Scalar

/-- The integer that a scalar equals; truth values count as 0 and 1. -/
def toInt? : Scalar → Option Int
  | bool b => some (if b then 1 else 0)
  | int n => some n
  | real x => x.toInt?
  | _ => none

/-- Keys are equal when they are the same scalar or equal the same integer. -/
def sameKey (a b : Scalar) : Bool :=
  match a.toInt?, b.toInt? with
  | some m, some n => m == n
  | _, _ => a == b

def truth : Scalar → Bool
  | null => false
  | bool b => b
  | int n => n ≠ 0
  | real x => !x.isZero
  | text s => s ≠ ""
  | bytes content => !content.isEmpty
  | date _ | clock _ | moment _ => true

end Scalar

namespace Value

/-- Nothing, zero and whatever is empty are false. -/
def truth : Value → Bool
  | scalar s => s.truth
  | list items | tuple items => !items.isEmpty
  | set items => !items.isEmpty
  | table fields => !fields.isEmpty

def lookup (fields : List (Scalar × Value)) (key : String) : Option Value :=
  (fields.find? fun f => f.1 == .text key).map (·.2)

/-- Writes under a key. A key that is there keeps its place and its spelling. -/
def assign (fields : List (Scalar × Value)) (key : Scalar) (value : Value) :
    List (Scalar × Value) :=
  match fields with
  | [] => [(key, value)]
  | (k, v) :: rest =>
    if k.sameKey key then (k, value) :: rest else (k, v) :: assign rest key value

def text? : Value → Option String
  | text s => some s
  | _ => none

/-- The items of a value that has an order of its own. -/
def sequence? : Value → Option (List Value)
  | list items | tuple items => some items
  | _ => none

/-- What a value is made of: items, keys, bytes, or the characters of a text. -/
def elements? : Value → Option (List Value)
  | list items | tuple items => some items
  | set items => some (items.map .scalar)
  | table fields => some (fields.map fun f => .scalar f.1)
  | text s => some (s.toList.map fun c => .text (String.singleton c))
  | bytes content => some (content.map fun b => .int b.toNat)
  | _ => none

/-- Whether a name is a key, an item or a part of a text. Other values hold no names. -/
def holds? (name : String) : Value → Option Bool
  | table fields => some (lookup fields name).isSome
  | list items | tuple items => some (items.any (·.text? = some name))
  | set items => some (items.any (· = .text name))
  | text s => some (Text.occursIn name.toList s.toList)
  | _ => none

end Value
end StructureDerive
