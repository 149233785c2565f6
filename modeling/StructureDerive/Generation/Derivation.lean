import StructureDerive.Configuration.Options
import StructureDerive.Declaration.Instantiation
import StructureDerive.Request.Entries
import StructureDerive.Stub

/-! # Derivation of a target

From the declaration of a target to its requests, obligations, stubs and tests. A batch holds the
derivations that succeed and a diagnostic for each target that fails; no target affects another.
-/
namespace StructureDerive
variable [Host]

structure Derivation where
  target : Target
  requests : List Request := []
  obligations : List Obligation := []
  stubs : List Stub := []
  tests : List LawTest := []
  crate : String := defaultCrate

namespace Declaration

/-- The settings of a declaration go before the configured ones. -/
def testPlan (d : Declaration) (options : Options) : Except Failure TestPlan := do
  let policy ← match d.guard with
    | .null => pure options.guard
    | own => GuardPolicy.ofValue own
  return { target := d.target, policy, approx := d.approx.getD options.approx }

/-- The instantiations of a declaration. A generic target needs at least one. -/
def instantiationsFor (d : Declaration) : Except Cause (List (List String)) := do
  let instantiations ← Instantiation.parse (.list d.instantiations) d.target.generics
  if !d.target.generics.instantiable.isEmpty && instantiations.isEmpty then
    throw (.malformedInstantiation (.missing d.target.name))
  return instantiations

def lawTests (d : Declaration) (c : Catalog) (options : Options) (obligations : List Obligation) :
    Except Failure (List LawTest) := do
  let instantiations ← d.instantiationsFor
  let plan ← d.testPlan options
  plan.matrix c obligations instantiations

/-- Tests are generated for a target that asks for them, unless they are switched off. -/
def derive (d : Declaration) (c : Catalog) (options : Options) (withTests : Bool) :
    Except Failure Derivation := do
  let requests ← TraitEntry.requests c d.entries
  let obligations ← Request.expandAll c requests (some d.target.name)
  let stubs ← d.target.stubs c obligations
  let tests ← if withTests && d.tested then d.lawTests c options obligations else pure []
  return { target := d.target, requests, obligations, stubs, tests, crate := options.crate }

end Declaration

namespace Derivation

def render (d : Derivation) : Except Fault String := do
  let stubs := d.target.renderStubs d.stubs d.crate
  if d.tests.isEmpty then return stubs
  return stubs ++ "\n" ++ (← d.target.renderTests d.tests d.crate)

def obligationsJson (d : Derivation) : Json :=
  .list <| d.obligations.map fun o => .object [
    ("kind", .text o.kind), ("operators", .texts o.operators), ("where", .optional o.clause)]

def testsJson (d : Derivation) : Json :=
  .list <| d.tests.map fun t => .object [
    ("name", .text t.name), ("kind", .text t.kind), ("property", .text t.law),
    ("operators", .texts t.operators), ("instantiation", .texts t.types),
    ("guard", .optional (t.guard.map (·.operator)))]

def json (d : Derivation) : Json :=
  .object [("target", .text d.target.name), ("obligations", d.obligationsJson),
    ("tests", d.testsJson)]

end Derivation

/-- A target that failed, with the cause. -/
structure Diagnostic where
  target : String
  cause : Cause

def Diagnostic.text (d : Diagnostic) : String :=
  s!"ERROR: [{d.cause.code}] {d.target} - {d.cause.message}"

def Diagnostic.json (d : Diagnostic) : Json :=
  .object <| d.cause.context.foldl (fun fields f => Json.assign fields f.1 f.2)
    [("target", .text d.target), ("code", .text d.cause.code), ("message", .text d.cause.message)]

structure Batch where
  results : List Derivation := []
  diagnostics : List Diagnostic := []

namespace Batch

def succeeded (b : Batch) : Bool := b.diagnostics.isEmpty

def stubCount (b : Batch) : Nat := (b.results.map (·.stubs.length)).foldr (· + ·) 0

def testCount (b : Batch) : Nat := (b.results.map (·.tests.length)).foldr (· + ·) 0

def add (b : Batch) (target : String) : Except Failure Derivation → Except Fault Batch
  | .ok result => .ok { b with results := b.results ++ [result] }
  | .error (.cause cause) => .ok { b with diagnostics := b.diagnostics ++ [⟨target, cause⟩] }
  | .error (.fault fault) => .error fault

def derive (declarations : List Declaration) (c : Catalog) (options : Options)
    (withTests : Bool) : Except Fault Batch :=
  declarations.foldlM (fun b d => b.add d.target.name (d.derive c options withTests)) {}

def render (b : Batch) : Except Fault String :=
  return "\n".intercalate (← b.results.mapM (·.render))

def json (b : Batch) : Json :=
  .object [("targets", .list (b.results.map (·.json))),
    ("diagnostics", .list (b.diagnostics.map (·.json))),
    ("summary", .object [("targets", .int b.results.length), ("failed", .int b.diagnostics.length),
      ("impls", .int b.stubCount), ("tests", .int b.testCount)])]

end Batch
end StructureDerive
