import StructureDerive.LawTest.Rendering
import StructureDerive.Request.Expansion

/-! # Implementation stubs

One empty implementation for each obligation of a target, inside a constant of the target's own.
-/
namespace StructureDerive

structure Stub where
  kind : String
  traitName : String
  operators : List String
  predicates : List String := []
deriving DecidableEq, Repr

def renderWhere (predicates : List String) : String :=
  if predicates.isEmpty then "" else " where " ++ commaList predicates

namespace Target

/-- The predicates of a target and then those of a clause. -/
def mergeWhere (t : Target) (clause : Option String) : List String :=
  t.predicates ++ (clause.map Text.splitTopLevel).getD []

def stub (t : Target) (c : Catalog) (o : Obligation) : Except Cause Stub := do
  let entry ← c.lookup o.kind
  return ⟨o.kind, entry.traitName, o.operators, t.mergeWhere o.clause⟩

def stubs (t : Target) (c : Catalog) (obligations : List Obligation) : Except Cause (List Stub) :=
  obligations.mapM (t.stub c)

def renderStub (t : Target) (s : Stub) : String :=
  s!"impl{t.generics.declared} _alga::general::{s.traitName}<{commaList s.operators}> " ++
    s!"for {t.type}{renderWhere s.predicates} \x7b\x7d"

def renderStubs (t : Target) (stubs : List Stub) (crate : String := defaultCrate) : String :=
  let lines := ["#[allow(non_upper_case_globals, unused_attributes, unused_qualifications)]",
    s!"const {t.scopeName}: () = \x7b", externLine crate] ++
    (stubs.flatMap fun s => ["    #[automatically_derived]", "    " ++ t.renderStub s]) ++
    ["\x7d;"]
  "\n".intercalate lines ++ "\n"

end Target
end StructureDerive
