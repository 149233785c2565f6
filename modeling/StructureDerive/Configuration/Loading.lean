import StructureDerive.Catalog.Document
import StructureDerive.Configuration.Options

/-! # Configuration files

Options stand in a file of their own or in a section of a project file. The nearest usable file at
or above a folder is found by its name.
-/
namespace StructureDerive
variable [Host]

namespace Configuration

def ownFile : String := "algagen.toml"

def projectFile : String := "pyproject.toml"

def toolsKey : String := "tool"

def sectionKey : String := "algagen"

/-- The section of a project file; an absent one is empty. -/
def projectSection (fields : List (Scalar × Value)) : Except Fault Value := do
  let tools ← ((Value.lookup fields toolsKey).getD (.table [])).fields
  return (Value.lookup tools sectionKey).getD (.table [])

/-- A file of its own may hold the section, or else the options themselves. -/
def ownSection (fields : List (Scalar × Value)) : Except Fault Value :=
  match Value.lookup fields toolsKey with
  | none => .ok (.table fields)
  | some tools => do
    if ← tools.holds sectionKey then
      match tools with
      | .table inner => return (Value.lookup inner sectionKey).getD .null
      | _ => throw .notSearchable
    else return .table fields

/-- The options of a file. Paths in it start at its folder. -/
def load (t : FileTree) (p : Path) : Except Failure Options := do
  match Toml.parseBytes (← t.read p) with
  | none => throw (.ofCause (.declaration (.malformedConfiguration p.text)))
  | some document =>
    let fields ← document.fields
    let options ← if p.name = projectFile then projectSection fields else ownSection fields
    Options.ofValue options (some p.parent)

/-- Whether a project file names the section. A malformed file does not. -/
def namesSection (t : FileTree) (p : Path) : Except Fault Bool := do
  match Toml.parseBytes (← t.read p) with
  | some (.table fields) =>
    return (((Value.lookup fields toolsKey).getD (.table [])).holds? sectionKey).getD false
  | _ => return false

/-- The usable file of a folder. A file of its own goes first. -/
def inFolder (t : FileTree) (folder : Path) : Except Fault (Option Path) := do
  let own := folder.join ⟨"", [ownFile]⟩
  let project := folder.join ⟨"", [projectFile]⟩
  if ← t.isFile own then return some own
  if ← t.isFile project then
    if ← namesSection t project then return some project
  return none

/-- A folder and those above it, the nearest first. -/
def foldersFrom (folder : Path) : List Path :=
  (List.range (folder.segments.length + 1)).reverse.map fun n =>
    { folder with segments := folder.segments.take n }

def find (t : FileTree) (start : Path) : Except Fault (Option Path) := do
  (foldersFrom (← t.resolve start)).findSomeM? (inFolder t)

end Configuration

def Options.catalog (o : Options) (t : FileTree) : Except Failure Catalog :=
  match o.catalogPath with
  | none => .ok Catalog.standard
  | some path => do Catalog.standard.extended (← Catalog.loadEntries t path)

end StructureDerive
