import StructureDerive.Command.Expansion
import StructureDerive.Format.Diff

/-! # Generating

Generates the code of a declaration file and writes it to a file, into the region of a file, or to
the results. A dry run shows the plan, and the difference to the file with the region.
-/
namespace StructureDerive.Command
variable [Host]

structure GenerateRequest where
  source : Path
  out : Option Path := none
  inPlace : Option Path := none
  withTests : Bool := true
  json : Bool := false
  dryRun : Bool := false

/-- Shows a diagnostic: its code and target, and its message line by line. -/
def printDiagnostic (d : Diagnostic) : Command Unit := do
  printStyled .messages <|
    let code := Host.screen.escaped s!"[{d.cause.code}]"
    s!"[bold red]ERROR[/] {code} [bold]{Host.screen.escaped d.target}[/]"
  (Text.lines d.cause.message).forM fun line => print .messages s!"  {line}"

namespace GenerateRequest

def exitCode (batch : Batch) : Nat := if batch.succeeded then 0 else 1

/-- The difference that a plan makes to the file with the region. -/
def difference (p : Plan) : String :=
  let lines (s : String) : List String := (Text.linesWithBreaks s.toList).map String.ofList
  Diff.unified "existing" "generated" (lines p.existing) (lines p.updated)

def preview (p : Plan) : Command Unit := do
  printStyled .messages "\n[bold]DRY RUN[/bold] - No changes will be made\n"
  printStyled .messages (← orFault p.summary)
  if p.inPlace && difference p ≠ "" then
    write .messages (Host.screen.difference (difference p))

/-- Hands on what an execution printed, or says where it wrote. -/
def announce (p : Plan) (written : Written) : Command Unit := do
  write .results written.printed
  match written.output with
  | some path =>
    printStyled .messages s!"Wrote {p.batch.results.length} targets to {path.text}"
  | none => return

def execute (r : GenerateRequest) (p : Plan) : Command Unit := do
  let written ← orFault (p.execute (← get).tree r.out)
  modify fun s => { s with tree := written.tree }
  if let some fault := written.fault then throw (.fault fault)
  if let some problem := written.problem then
    printStyled .messages problem
    finish 1
  announce p written

def deliver (r : GenerateRequest) (p : Plan) : Command Unit :=
  if r.json then write .results (p.batch.json.render ++ "\n")
  else if r.dryRun then preview p
  else r.execute p

def run (r : GenerateRequest) (options : Options) (verbose : Bool) : Command Nat := do
  let tree := (← get).tree
  report verbose (Plan.reports tree r.source options r.withTests)
  let plan ← orElse (Plan.compute tree r.source options r.withTests r.inPlace) failWith
  plan.batch.diagnostics.forM printDiagnostic
  r.deliver plan
  return exitCode plan.batch

end GenerateRequest
end StructureDerive.Command
