import StructureDerive.Configuration.Loading
import StructureDerive.Declaration.Document
import StructureDerive.Generation.Derivation
import StructureDerive.Generation.Region
import StructureDerive.Text.Surrogate

/-! # Generation plans

A plan holds everything that a generation would write. Nothing is written until it is executed.
-/
namespace StructureDerive
variable [Host]

structure Plan where
  source : Path
  batch : Batch := {}
  inPlace : Bool := false
  target : Option Path := none
  generated : String := ""
  existing : String := ""
  updated : String := ""

/-- What an execution wrote. `printed` goes to the reader instead of a file. A fault while a file is
written leaves the file empty. -/
structure Written where
  bytes : Nat := 0
  problem : Option String := none
  output : Option Path := none
  printed : String := ""
  fault : Option Fault := none
  tree : FileTree

namespace Plan

def byteCount (s : String) : Except Fault Nat :=
  match Text.utf8? s with
  | some bytes => .ok bytes.size
  | none => .error .unencodable

/-- The sizes of a file before and after an update in place. -/
def sizeLines (p : Plan) : Except Fault (List String) := do
  if p.inPlace && p.existing ≠ "" then
    return [s!"  Size change: {← byteCount p.existing} -> {← byteCount p.updated} bytes"]
  return []

def summary (p : Plan) : Except Fault String :=
  return "\n".intercalate <|
    ["Generate Plan",
      s!"  Declarations: {p.source.text}",
      s!"  Targets: {p.batch.results.length} ok, {p.batch.diagnostics.length} failed",
      s!"  Impl stubs: {p.batch.stubCount}",
      s!"  Property tests: {p.batch.testCount}",
      "  Mode: " ++ if p.inPlace then "in-place update" else "generate new"] ++
    (p.target.map fun path => s!"  Target: {path.text}").toList ++ (← p.sizeLines)

def existingText (t : FileTree) (p : Path) : Except Fault String := do
  if ← t.pathExists p then t.readText p else return ""

/-- Plans a generation from a declaration file, into a file with a region if one is given. -/
def compute (t : FileTree) (source : Path) (options : Options) (withTests : Bool)
    (inPlace : Option Path) : Except Failure Plan := do
  let catalog ← options.catalog t
  let declarations ← Declaration.load t source
  let batch ← Batch.derive declarations catalog options withTests
  let generated ← batch.render
  match inPlace with
  | none => return { source, batch, generated }
  | some path =>
    let existing ← existingText t path
    let updated ← Region.update existing generated
    return { source, batch, inPlace := true, target := inPlace, generated, existing, updated }

/-- The first line of generated files. -/
def header : String := "// @generated by algagen\n"

def writeText (t : FileTree) (path : Path) (text : String) : Except Fault Written := do
  match Text.utf8? text with
  | some content =>
    return { bytes := content.size, output := some path, tree := ← t.write path content }
  | none => return { fault := some .unencodable, tree := ← t.write path .empty }

/-- Writes the updated file, or the generated text to a file or to the reader. -/
def execute (p : Plan) (t : FileTree) (out : Option Path) : Except Fault Written := do
  if p.inPlace then
    match p.target with
    | none => return { problem := some "No target path for in-place update", tree := t }
    | some path => writeText t path p.updated
  else
    let content := header ++ "\n" ++ p.generated
    match out with
    | some path => writeText t path content
    | none => return { printed := content, tree := t }

end Plan
end StructureDerive
