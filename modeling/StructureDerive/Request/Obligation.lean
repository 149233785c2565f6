import StructureDerive.Catalog.Basic

/-! # Requests and obligations

A request asks for one kind under given operators. An obligation is one implementation that a
request implies.
-/
namespace StructureDerive

/-- `index` is the rank of the request among those of its target. -/
structure Request where
  kind : String
  operators : List String
  clause : Option String := none
  index : Int := 0
deriving DecidableEq, Repr

/-- `companion` is the first operator of a request of two operators, for kinds under its second. -/
structure Obligation where
  kind : String
  operators : List String
  clause : Option String := none
  source : Int := 0
  companion : Option String := none
deriving DecidableEq, Repr

namespace Obligation

def key (o : Obligation) : String × List String := (o.kind, o.operators)

def label (o : Obligation) : String := s!"{o.kind}({commaList o.operators})"

/-- Takes over the companion of a repetition if there is none yet. -/
def adopt (kept repetition : Obligation) : Obligation :=
  { kept with companion := kept.companion <|> repetition.companion }

end Obligation
end StructureDerive
