import StructureDerive.Command.Line
import StructureDerive.Host.Terminal

/-! # The program

Reads the files that a command line may need from the disk, runs the command line on them as a
value, and writes what it printed and changed.
-/
namespace StructureDerive.Disk
variable [Host]

def textOf (l : Location) : String := "/" ++ "/".intercalate l

def addFile (t : FileTree) (l : Location) : IO FileTree := do
  try
    return t.put l (.file (← IO.FS.readBinFile (textOf l)))
  catch _ => return { t.put l (.file .empty) with unreadable := l :: t.unreadable }

/-- Takes what stands at a location of the disk into a tree. -/
def addNode (t : FileTree) (l : Location) : IO FileTree := do
  try
    let path ← IO.FS.realPath (textOf l)
    if ← path.isDir then return t.put l .folder
    if ← path.pathExists then addFile t l else return t
  catch _ => return t

/-- Takes a location into a tree, with all folders on the way to it. -/
def addLocation (t : FileTree) (l : Location) : IO FileTree :=
  (List.range l.length).foldlM (fun t n => addNode t (l.take (n + 1))) t

def addPath (t : FileTree) (p : Path) : IO FileTree := addLocation t (t.placeOf p)

/-- The paths that arguments may hold: as they are, or after an equals sign. -/
def pathsIn (arguments : List String) : List Path :=
  arguments.flatMap fun argument =>
    let (name, value) := Arguments.splitValue argument
    (name :: value.toList).map Path.ofString

/-- The configuration files at or above the working folder. -/
def configurations (t : FileTree) : List Path :=
  (Configuration.foldersFrom ⟨"/", t.working⟩).flatMap fun folder =>
    [Configuration.ownFile, Configuration.projectFile].map fun name => folder.join ⟨"", [name]⟩

/-- The catalog that a configuration file names. -/
def catalogOf (t : FileTree) (p : Path) : Option Path :=
  match Configuration.load t p with
  | .ok options => options.catalogPath
  | .error _ => none

/-- The part of the disk that a command line can touch. -/
def treeFor (arguments : List String) : IO FileTree := do
  let working := Path.ofString (← IO.currentDir).toString
  let start : FileTree := { working := working.segments }
  let candidates := pathsIn arguments ++ configurations start
  let t ← (Path.ofString "." :: candidates).foldlM addPath start
  (candidates.filterMap (catalogOf t)).foldlM addPath t

def save (before after : FileTree) : IO Unit :=
  (after.changedSince before).forM fun (l, content) => IO.FS.writeBinFile (textOf l) content

end StructureDerive.Disk

open StructureDerive

attribute [local instance] Host.terminal in
def main (arguments : List String) : IO UInt32 := do
  let tree ← Disk.treeFor arguments
  let outcome := (Command.line arguments).run tree
  IO.print outcome.session.results
  IO.eprint outcome.session.messages
  Disk.save tree outcome.session.tree
  match outcome.ending with
  | .exit code => return code.toUInt32
  | .fault _ =>
    IO.eprintln "The command was stopped by a fault."
    return 1
