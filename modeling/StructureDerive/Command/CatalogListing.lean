import StructureDerive.Catalog.Consistency
import StructureDerive.Command.Session

/-! # Showing a catalog

The table of all kinds, the explanation of one kind, and the check for consistency.
-/
namespace StructureDerive
variable [Host]

namespace Command

/-- Shows a table. Style tags in its title and in its cells vanish. -/
def printTable (t : Table) : Command Unit := do
  write .results (← orFault (Host.screen.table t))

end Command

namespace Catalog

def listOrDash (items : List String) : String :=
  if commaList items = "" then "-" else commaList items

def row (e : Entry) : Except Fault (List String) := do
  let laws ← e.laws.mapM fun law => return s!"{law.name}/{← intText law.arity}"
  return [e.kind, ← intText e.arity, listOrDash e.dependencies, listOrDash laws]

def table (c : Catalog) : Except Fault Table := do
  return {
    title := "Structure kinds"
    columns := [⟨"Kind", false⟩, ⟨"Arity", true⟩, ⟨"Implies", false⟩, ⟨"Laws", false⟩]
    rows := ← c.entries.mapM row }

def list (c : Catalog) : Command Nat := do
  Command.printTable (← Command.orFault c.table)
  return 0

def explanation (e : Entry) : List String :=
  let slots := if e.arity = 1 then "Operator" else "Operator1, Operator2"
  let implied (heading : String) (kinds : List String) : List String :=
    if kinds.isEmpty then [] else [s!"  implies {heading}: {commaList kinds}"]
  [s!"[bold]{e.kind}[/bold]({slots})  ->  {e.traitName}"] ++
    implied "with both operators" e.joint ++
    implied (if e.arity = 2 then "under Operator1" else "under Operator") e.slot0 ++
    implied "under Operator2" e.slot1

def guardLines (e : Entry) : List String :=
  if e.guarded then ["  inputs equal to a companion identity are discarded in tests"] else []

def explain (c : Catalog) (kind : String) : Command Nat := do
  match c.lookup kind with
  | .ok entry =>
    (explanation entry).forM (Command.printStyled .results)
    entry.laws.forM fun law => do
      let arity ← Command.orFault (intText law.arity)
      Command.printStyled .results s!"  law: {law.name} ({arity} args)"
    (guardLines entry).forM (Command.printStyled .results)
    return 0
  | .error cause =>
    Command.printStyled .results cause.message
    Command.printStyled .results s!"Known kinds: {commaList c.kinds}"
    return 1

def check (c : Catalog) : Command Nat := do
  match c.inconsistencies with
  | [] =>
    Command.printStyled .messages s!"Catalog is consistent ({c.entries.length} kinds)"
    return 0
  | problems =>
    (← Command.orFault (problems.mapM (·.text))).forM fun problem =>
      Command.print .messages s!"ERROR: {problem}"
    return 1

end Catalog
end StructureDerive
