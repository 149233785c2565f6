import StructureDerive.Cause
import StructureDerive.Files.Path
import StructureDerive.Text.Lines

/-! # File trees

A tree of folders and files as a value, with a working folder. A path is followed segment by
segment, and every segment on the way has to be a folder that may be entered.
-/
namespace StructureDerive

/-- Segments from the top of the tree, without `..`. -/
abbrev Location := List String

inductive Node where
  | folder
  | file (content : ByteArray)

/-- Every folder and file but the top with its location. A folder that is `unreadable` may not be
entered, and in one that is `unwritable` no file may be made. -/
structure FileTree where
  nodes : List (Location × Node) := []
  working : Location := []
  unreadable : List Location := []
  unwritable : List Location := []

/-- Why a path leads nowhere: a name on the way is that of no folder, a folder on the way may not be
entered, a name or the whole path is too long, or the path holds a NUL. -/
inductive PathProblem where
  | noFolder
  | denied
  | tooLong
  | nul
deriving DecidableEq, Repr

def PathProblem.fault : PathProblem → Fault
  | nul => .unnameable
  | _ => .inaccessibleFile

namespace FileTree

def nameLimit : Nat := 255

def pathLimit : Nat := 4095

def node? (t : FileTree) (l : Location) : Option Node :=
  if l = [] then some .folder else (t.nodes.find? (·.1 = l)).map (·.2)

def isFolderAt (t : FileTree) (l : Location) : Bool :=
  match t.node? l with
  | some .folder => true
  | _ => false

def step (t : FileTree) (l : Location) (segment : String) : Except PathProblem Location :=
  if !t.isFolderAt l then .error .noFolder
  else if t.unreadable.contains l then .error .denied
  else if nameLimit < segment.utf8ByteSize then .error .tooLong
  else .ok (if segment = ".." then l.dropLast else l ++ [segment])

def startOf (t : FileTree) (p : Path) : Location := if p.isAbsolute then [] else t.working

/-- Where a path leads. The last segment need not exist. -/
def locate (t : FileTree) (p : Path) : Except PathProblem Location :=
  if p.segments.any (·.toList.contains '\x00') then .error .nul
  else if pathLimit < p.text.utf8ByteSize then .error .tooLong
  else p.segments.foldlM t.step (t.startOf p)

/-- What stands at a path. A path that is too long, or leads through a folder that may not be entered,
cannot be looked up at all. -/
def lookup (t : FileTree) (p : Path) : Except Fault (Option Node) :=
  match t.locate p with
  | .ok l => .ok (t.node? l)
  | .error .tooLong | .error .denied => .error .inaccessibleFile
  | .error _ => .ok none

def pathExists (t : FileTree) (p : Path) : Except Fault Bool := return (← t.lookup p).isSome

def isFile (t : FileTree) (p : Path) : Except Fault Bool := do
  match ← t.lookup p with
  | some (.file _) => return true
  | _ => return false

def read (t : FileTree) (p : Path) : Except Fault ByteArray := do
  let l ← (t.locate p).mapError (·.fault)
  match t.node? l with
  | some (.file content) => if t.unreadable.contains l then throw .inaccessibleFile else return content
  | _ => throw .inaccessibleFile

/-- The text of a file, with all line ends read as line feeds. -/
def readText (t : FileTree) (p : Path) : Except Fault String := do
  match String.fromUTF8? (← t.read p) with
  | some s => return String.ofList (Text.foldReturns s.toList)
  | none => throw .notUtf8

/-- Puts a node at a location, in place of what is there or after all others. -/
def put (t : FileTree) (l : Location) (n : Node) : FileTree :=
  if t.nodes.any (·.1 = l) then
    { t with nodes := t.nodes.map fun entry => if entry.1 = l then (l, n) else entry }
  else { t with nodes := t.nodes ++ [(l, n)] }

/-- Whether a file may be written: its own content, or its folder if there is no such file yet. -/
def mayWrite (t : FileTree) (l : Location) : Bool :=
  !t.unwritable.contains (if (t.node? l).isSome then l else l.dropLast)

def write (t : FileTree) (p : Path) (content : ByteArray) : Except Fault FileTree := do
  let l ← (t.locate p).mapError (·.fault)
  if t.isFolderAt l || !t.isFolderAt l.dropLast || !t.mayWrite l then throw .inaccessibleFile
  return t.put l (.file content)

def makeFolders (t : FileTree) (l : Location) : FileTree :=
  (List.range l.length).foldl
    (fun t n => if (t.node? (l.take (n + 1))).isSome then t else t.put (l.take (n + 1)) .folder) t

/-- The location of a path with all `..` taken away by name, whether the folders exist or not. -/
def placeOf (t : FileTree) (p : Path) : Location :=
  p.segments.foldl (fun l segment => if segment = ".." then l.dropLast else l ++ [segment])
    (t.startOf p)

def resolve (t : FileTree) (p : Path) : Except Fault Path :=
  match t.locate p with
  | .error .nul => .error .unnameable
  | _ => .ok ⟨"/", t.placeOf p⟩

/-- A location relative to the working folder, as a text. -/
def relativeText (t : FileTree) (l : Location) : String :=
  "/".intercalate (l.drop t.working.length)

/-- The files of a tree that another one lacks or holds with other content. -/
def changedSince (t before : FileTree) : List (Location × ByteArray) :=
  t.nodes.filterMap fun entry =>
    match entry.2, before.node? entry.1 with
    | .file content, some (.file old) =>
      if content.data = old.data then none else some (entry.1, content)
    | .file content, _ => some (entry.1, content)
    | .folder, _ => none

end FileTree
end StructureDerive
