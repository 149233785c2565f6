import StructureDerive.Command.CatalogListing

/-! # Expanding and checking

The obligations of trait entries given on the command line, and the check of a declaration file.
-/
namespace StructureDerive.Command
variable [Host]

def failWith {α : Type} (cause : Cause) : Command α := do
  print .messages cause.message
  finish 1

structure ExpandRequest where
  attributes : List String
  target : String := "T"
  generics : Option String := none
  json : Bool := false

namespace ExpandRequest

def declaration (r : ExpandRequest) : Except Failure Declaration := do
  let generics ← Generics.parse ((r.generics.map Value.text).getD .null)
  let entries ← (r.attributes.mapM TraitEntry.parse : Except Cause (List TraitEntry))
  return { target := { name := r.target, generics }, entries }

def table (target : String) (obligations : List Obligation) : Table where
  title := s!"Obligations for {target}"
  columns := [⟨"#", true⟩, ⟨"Kind", false⟩, ⟨"Operators", false⟩, ⟨"Where", false⟩]
  rows := obligations.zipIdx.map fun (o, i) =>
    [toString (i + 1), o.kind, commaList o.operators, o.clause.getD ""]

def run (r : ExpandRequest) (options : Options) (verbose : Bool) : Command Nat := do
  let catalog ← orElse (options.catalog (← get).tree) failWith
  let declaration ← orElse r.declaration failWith
  report verbose (declaration.reports catalog options false)
  let result ← orElse (declaration.derive catalog options false) failWith
  if r.json then write .results (result.obligationsJson.render ++ "\n")
  else printTable (table r.target result.obligations)
  return 0

end ExpandRequest

def check (source : Path) (options : Options) (verbose : Bool) : Command Nat := do
  let tree := (← get).tree
  let catalog ← orElse (options.catalog tree) failWith
  let declarations ← orElse (Declaration.load tree source) failWith
  report verbose (Batch.reports declarations catalog options true)
  let batch ← orFault (Batch.derive declarations catalog options true)
  batch.results.forM fun result => printStyled .messages <|
    s!"ok  {result.target.name}: {result.obligations.length} impls, {result.tests.length} tests"
  batch.diagnostics.forM fun d => print .messages d.text
  if batch.succeeded then return 0
  print .messages s!"\n❌ {batch.diagnostics.length} target(s) failed"
  return 1

end StructureDerive.Command
