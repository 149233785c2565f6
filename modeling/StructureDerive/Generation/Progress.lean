import StructureDerive.Generation.Plan

/-! # Progress records

What is reported while targets are derived: how many requests, obligations and tests there are, and
why a target failed. Details are reported only on demand.
-/
namespace StructureDerive
variable [Host]

inductive Level where
  | debug
  | info
  | warning
deriving DecidableEq, Repr

namespace Level

def label : Level → String
  | debug => "DEBUG"
  | info => "INFO"
  | warning => "WARNING"

def rank : Level → Nat
  | debug => 0
  | info => 1
  | warning => 2

end Level

structure Report where
  level : Level
  origin : String
  message : String
deriving DecidableEq, Repr

def Report.text (r : Report) : String := s!"{r.level.label} {r.origin}: {r.message}"

namespace Report

def parsed (requests : List Request) : Report :=
  ⟨.debug, "algagen.spec.parser", s!"parsed {requests.length} structure requests"⟩

def expanded (requests : List Request) (all kept : List Obligation) : Report :=
  ⟨.debug, "algagen.expand", s!"expanded {requests.length} requests into {kept.length} obligations " ++
    s!"({all.length - kept.length} duplicates dropped)"⟩

def generated (target : String) (tests : List LawTest) : Report :=
  ⟨.debug, "algagen.emit.matrix", s!"generated {tests.length} property tests for {target}"⟩

def finished (d : Derivation) : Report :=
  ⟨.info, "algagen.engine", s!"{d.target.name}: {d.requests.length} requests, " ++
    s!"{d.stubs.length} impls, {d.tests.length} tests"⟩

def failed (target : String) (c : Cause) : Report :=
  ⟨.warning, "algagen.engine", s!"{target}: {c.message}"⟩

end Report

namespace Declaration

/-- The reports of the stages that are passed once the requests are read. -/
def stageReports (d : Declaration) (c : Catalog) (outcome : Except Failure Derivation)
    (tested : Bool) (requests : List Request) : List Report :=
  match Request.expandEach c requests, requests with
  | .error _, _ | _, [] => []
  | .ok all, _ =>
    .expanded requests all (Obligation.dedupe all) ::
      match outcome with
      | .ok result =>
        (if tested then [.generated d.target.name result.tests] else []) ++ [.finished result]
      | .error _ => []

def reports (d : Declaration) (c : Catalog) (options : Options) (withTests : Bool) : List Report :=
  match TraitEntry.requests c d.entries with
  | .error _ => []
  | .ok requests =>
    .parsed requests ::
      d.stageReports c (d.derive c options withTests) (withTests && d.tested) requests

/-- The reports of a derivation within a batch, where a failure is reported as well. -/
def batchReports (d : Declaration) (c : Catalog) (options : Options) (withTests : Bool) :
    List Report :=
  d.reports c options withTests ++
    match d.derive c options withTests with
    | .error (.cause cause) => [.failed d.target.name cause]
    | _ => []

end Declaration

def Batch.reports (declarations : List Declaration) (c : Catalog) (options : Options)
    (withTests : Bool) : List Report :=
  declarations.flatMap fun d => d.batchReports c options withTests

/-- The reports of a plan. Nothing is reported before the catalog and the declarations are read. -/
def Plan.reports (t : FileTree) (source : Path) (options : Options) (withTests : Bool) :
    List Report :=
  match options.catalog t, Declaration.load t source with
  | .ok catalog, .ok declarations => Batch.reports declarations catalog options withTests
  | _, _ => []

end StructureDerive
