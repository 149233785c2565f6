import StructureDerive.Request.Obligation

/-! # Expansion of requests

Every implementation that a list of requests implies, each one once. The first obligation for a
kind and its operators is kept, and a companion found later is added to it.
-/
namespace StructureDerive
variable [Host]

namespace Request

def obligation (r : Request) (kind : String) (operators : List String)
    (companion : Option String := none) : Obligation :=
  { kind, operators, clause := r.clause, source := r.index, companion }

def slotObligations (r : Request) (kinds : List String) (operator companion : Option String) :
    Except Fault (List Obligation) :=
  match kinds, operator with
  | [], _ => .ok []
  | _, some op => .ok (kinds.map fun kind => r.obligation kind [op] companion)
  | _, none => .error .missingItem

/-- The requested kind, what it implies under all operators, then slot by slot. -/
def expand (c : Catalog) (r : Request) : Except Failure (List Obligation) := do
  let entry ← c.lookup r.kind
  if (r.operators.length : Int) ≠ entry.arity then
    throw (.ofCause (.arityMismatch r.kind entry.arity r.operators.length))
  let whole := (r.kind :: entry.joint).map (r.obligation · r.operators)
  let first ← r.slotObligations entry.slot0 r.operators[0]? none
  let second ←
    if entry.arity = 2 then r.slotObligations entry.slot1 r.operators[1]? r.operators[0]?
    else pure []
  return whole ++ first ++ second

end Request

namespace Obligation

/-- Adds an obligation unless its key is there, which then only adopts its companion. -/
def insert (kept : List Obligation) (o : Obligation) : List Obligation :=
  match kept with
  | [] => [o]
  | k :: rest => if k.key = o.key then k.adopt o :: rest else k :: insert rest o

def dedupe (obligations : List Obligation) : List Obligation := obligations.foldl insert []

end Obligation

namespace Request

def expandEach (c : Catalog) (requests : List Request) : Except Failure (List Obligation) :=
  return (← requests.mapM (expand c)).flatten

def expandAll (c : Catalog) (requests : List Request) (target : Option String) :
    Except Failure (List Obligation) :=
  if requests.isEmpty then throw (.ofCause (.emptyStructureList target))
  else return Obligation.dedupe (← expandEach c requests)

end Request
end StructureDerive
