import StructureDerive.LawTest.Guard
import StructureDerive.LawTest.Name

/-! # The matrix of law tests

One test for each obligation, each law of its kind and each instantiation. Test names are unique
within a target; two tests of one name turn the whole target down.
-/
namespace StructureDerive
variable [Host]

/-- A test calls a law of a kind on arguments of the `parameters` types. -/
structure LawTest where
  name : String
  kind : String
  law : String
  operators : List String
  types : List String := []
  parameters : List String := []
  invocation : String := ""
  guard : Option Guard := none
deriving DecidableEq, Repr

structure TestPlan where
  target : Target
  policy : GuardPolicy := {}
  approx : Bool := false

namespace TestPlan

def test (p : TestPlan) (o : Obligation) (entry : Entry) (law : Law)
    (instantiation : Option (List String)) : Except Fault LawTest := do
  let type ← p.target.typeWith instantiation
  let function := law.variant p.approx
  let types := instantiation.getD []
  return {
    name := p.target.testName function types o.kind o.operators
    kind := o.kind
    law := function
    operators := o.operators
    types
    parameters := List.replicate law.arity.toNat type
    invocation := s!"<{type} as _alga::general::{entry.traitName}<{commaList o.operators}>>" ++
      s!"::{function}(args)"
    guard := p.policy.guardFor o entry }

def collision (p : TestPlan) (first second : LawTest) : Cause :=
  if first.types ≠ second.types then
    .malformedInstantiation
      (.sameTestName first.types second.types p.target.name second.name)
  else
    let label (t : LawTest) := s!"{t.kind}({commaList t.operators})"
    .declaration (.sameTestName (label first) (label second) p.target.name second.name)

def add (p : TestPlan) (tests : List LawTest) (t : LawTest) : Except Cause (List LawTest) :=
  match tests.find? (·.name = t.name) with
  | some first => .error (p.collision first t)
  | none => .ok (tests ++ [t])

def rows (instantiations : List (List String)) : List (Option (List String)) :=
  if instantiations.isEmpty then [none] else instantiations.map some

def addRow (p : TestPlan) (o : Obligation) (entry : Entry) (law : Law) (tests : List LawTest)
    (instantiation : Option (List String)) : Except Failure (List LawTest) := do
  p.add tests (← p.test o entry law instantiation)

def addLaw (p : TestPlan) (instantiations : List (List String)) (o : Obligation) (entry : Entry)
    (tests : List LawTest) (law : Law) : Except Failure (List LawTest) :=
  (rows instantiations).foldlM (p.addRow o entry law) tests

def addObligation (p : TestPlan) (c : Catalog) (instantiations : List (List String))
    (tests : List LawTest) (o : Obligation) : Except Failure (List LawTest) := do
  let entry ← c.lookup o.kind
  entry.laws.foldlM (p.addLaw instantiations o entry) tests

def matrix (p : TestPlan) (c : Catalog) (obligations : List Obligation)
    (instantiations : List (List String)) : Except Failure (List LawTest) :=
  obligations.foldlM (p.addObligation c instantiations) []

end TestPlan
end StructureDerive
