import StructureDerive.Declaration.Target
import StructureDerive.Files.Tree
import StructureDerive.Format.Toml.Document
import StructureDerive.Text.LowerCase

/-! # Declaration documents

A document declares its targets in a list of tables. It is written in TOML when its name says so,
and in YAML otherwise.
-/
namespace StructureDerive.Declaration
variable [Host]

def parseDocument (p : Path) (text : String) : Option Value :=
  if Text.lower p.suffix = ".toml" then Toml.parse text else Host.readYaml text

def targetList (path : String) (document : Value) : Except Cause (List Value) :=
  match document with
  | .table fields =>
    match Value.lookup fields "targets" with
    | some (.list targets) => .ok targets
    | _ => .error (.declaration (.noTargets path))
  | _ => .error (.declaration (.noTargets path))

def ofTargets (path : String) (position : Nat) : List Value → Except Failure (List Declaration)
  | [] => return []
  | .table fields :: rest =>
    return (← ofFields fields position) :: (← ofTargets path (position + 1) rest)
  | _ :: _ => throw (.ofCause (.declaration (.targetNotTable path position)))

def ofDocument (path : String) (document : Value) : Except Failure (List Declaration) := do
  ofTargets path 0 (← targetList path document)

def load (t : FileTree) (p : Path) : Except Failure (List Declaration) := do
  if !(← t.pathExists p) then throw (.ofCause (.declaration (.fileNotFound p.text)))
  match parseDocument p (← t.readText p) with
  | none => throw (.ofCause (.declaration (.malformedDocument p.text)))
  | some document => ofDocument p.text document

end StructureDerive.Declaration
