import StructureDerive.Cause
import StructureDerive.Text.EditDistance
import StructureDerive.Text.LowerCase

/-! # Catalogs of structure kinds

A kind has an arity, the weaker kinds that it implies under each operator slot, and the laws that
its trait can check. Implied kinds are listed in full, so that no list has to be followed further.
-/
namespace StructureDerive

/-- A law is checked by a function of its name on `arity` arguments. -/
structure Law where
  name : String
  arity : Int
deriving DecidableEq, Repr

/-- The function that checks a law, exactly or up to rounding. -/
def Law.variant (law : Law) (approx : Bool) : String :=
  if approx then law.name ++ "_approx" else law.name

/-- The kinds of `joint` are implied under all operators together. Laws of a guarded kind are
undefined at the identity of a companion operator. -/
structure Entry where
  kind : String
  arity : Int
  slot0 : List String := []
  slot1 : List String := []
  joint : List String := []
  laws : List Law := []
  guarded : Bool := false
deriving DecidableEq, Repr

namespace Entry

def traitName (e : Entry) : String := "Abstract" ++ e.kind

def dependencies (e : Entry) : List String :=
  (e.joint ++ e.slot0 ++ e.slot1).foldl
    (fun seen kind => if kind ∈ seen then seen else seen ++ [kind]) []

end Entry

/-- The order of the entries is the order of listings and decides between equal suggestions. -/
structure Catalog where
  entries : List Entry
deriving DecidableEq, Repr

namespace Catalog

def kinds (c : Catalog) : List String := c.entries.map (·.kind)

/-- The last entry of a kind. -/
def ofKind? (entries : List Entry) (kind : String) : Option Entry :=
  entries.reverse.find? (·.kind = kind)

def find? (c : Catalog) (kind : String) : Option Entry := ofKind? c.entries kind

def contains (c : Catalog) (kind : String) : Bool := (c.find? kind).isSome

/-- Keeps the nearest kind so far unless the next one is strictly nearer. -/
def nearer (name : String) (best : Option (Nat × String)) (kind : String) :
    Option (Nat × String) :=
  let distance := Text.editDistance (Text.lower name) (Text.lower kind)
  match best with
  | none => some (distance, kind)
  | some (least, found) => if distance < least then some (distance, kind) else some (least, found)

/-- The first of the kinds with the least edit distance to a name, both in lower case. -/
def closest (c : Catalog) (name : String) : Option String :=
  (c.kinds.foldl (nearer name) none).map (·.2)

def lookup (c : Catalog) (kind : String) : Except Cause Entry :=
  match c.find? kind with
  | some entry => .ok entry
  | none => .error (.unknownKind kind (c.closest kind))

def dependencies (c : Catalog) (kind : String) : Except Cause (List String) :=
  (c.lookup kind).map (·.dependencies)

end Catalog
end StructureDerive
