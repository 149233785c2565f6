import StructureDerive.Declaration.Attribute
import StructureDerive.Request.Obligation
import StructureDerive.Text.Path

/-! # Requests from trait entries

Each entry of a kind opens a request. A `Where` entry right after it gives the request its clause;
anywhere else it is misplaced.
-/
namespace StructureDerive

namespace TraitEntry

def operator (kind : String) (given : Value) : Except Cause String :=
  match given with
  | .text s =>
    let stripped := Text.strip s
    if Text.isPath stripped.toList then .ok stripped else .error (.malformedOperator kind given)
  | _ => .error (.malformedOperator kind given)

def operators (kind : String) : Value → Except Cause (List String)
  | .null => .ok []
  | .text s => (operator kind (.text s)).map ([·])
  | .list items | .tuple items => items.mapM (operator kind)
  | other => .error (.malformedOperator kind other)

def clause (argument : Value) : Except Cause String :=
  match argument.text?.bind Text.nonBlank? with
  | some clause => .ok clause
  | none => .error (.malformedWhere argument)

def request (c : Catalog) (index : Nat) (e : TraitEntry) : Except Cause Request := do
  let entry ← c.lookup e.key
  let operators ← operators e.key e.argument
  if operators.isEmpty then throw (.arityMismatch e.key entry.arity 0)
  return { kind := e.key, operators, index }

def strayWhere (index : Nat) : Cause := if index = 0 then .leadingWhere else .adjacentWhere

def requestsFrom (c : Catalog) (index : Nat) : List TraitEntry → Except Cause (List Request)
  | [] => .ok []
  | [e] =>
    if e.key = whereKey then .error (strayWhere index)
    else (request c index e).map ([·])
  | e :: next :: rest =>
    if e.key = whereKey then .error (strayWhere index)
    else do
      let request ← request c index e
      if next.key = whereKey then
        let clause ← clause next.argument
        return { request with clause := some clause } :: (← requestsFrom c (index + 1) rest)
      else return request :: (← requestsFrom c (index + 1) (next :: rest))

def requests (c : Catalog) (entries : List TraitEntry) : Except Cause (List Request) :=
  requestsFrom c 0 entries

end TraitEntry
end StructureDerive
