import StructureDerive.Catalog.Consistency
import StructureDerive.Catalog.Standard
import StructureDerive.Files.Tree
import StructureDerive.Format.Toml.Document

/-! # Catalog documents

Further kinds are written as a list of tables under `kinds`. Items that are no tables are passed
over.
-/
namespace StructureDerive.Catalog
variable [Host]

/-- An integer, a numeral, or a number cut off at its point. -/
def integer (subject : String) (given : Value) : Except Failure Int :=
  let refused : Except Failure Int := .error (.ofCause (.declaration (.notInteger subject given)))
  match given with
  | .int n => .ok n
  | .text s => ((Numeral.integer? s).map .ok).getD refused
  | .real (.infinite _) => .error (.fault .infiniteInteger)
  | .real x => (x.truncated.map .ok).getD refused
  | _ => refused

def kindNames (subject : String) : Value → Except Cause (List String)
  | .null => .ok []
  | .list items =>
    match items.mapM Value.text? with
    | some names => .ok (names.filterMap Text.nonBlank?)
    | none => .error (.declaration (.notKindNames subject))
  | _ => .error (.declaration (.notKindNames subject))

def law (path kind : String) (given : Value) : Except Failure Law :=
  match given with
  | .table fields =>
    match (Value.lookup fields "name").bind Value.text? with
    | some name =>
      return { name
               arity := ← integer s!"{kind}.{name}.arity"
                 ((Value.lookup fields "arity").getD (.int 1)) }
    | none => throw (.ofCause (.declaration (.lawShape path kind)))
  | _ => throw (.ofCause (.declaration (.lawShape path kind)))

def entryOfFields (path : String) (fields : List (Scalar × Value)) : Except Failure Entry := do
  let field (name : String) (absent : Value) := (Value.lookup fields name).getD absent
  let some kind := Text.nonBlank? (← (field "name" (.text "")).plainText)
    | throw (.ofCause (.declaration (.unnamedKind path)))
  let laws ← (← (field "properties" (.list [])).elements).mapM (law path kind)
  let arity ← integer s!"{kind}.arity" (field "arity" (.int 1))
  let slot0 ← kindNames s!"{kind}.slot0" (field "slot0" .null)
  let slot1 ← kindNames s!"{kind}.slot1" (field "slot1" .null)
  let joint ← kindNames s!"{kind}.joint" (field "joint" .null)
  let guarded := (field "guarded" (.bool false)).truth
  return { kind, arity, slot0, slot1, joint, laws, guarded }

def isTable : Value → Bool
  | .table _ => true
  | _ => false

def entriesOf (path : String) (document : Value) : Except Failure (List Entry) := do
  let fields ← document.fields
  let kinds ← ((Value.lookup fields "kinds").getD (.list [])).elements
  (kinds.filter isTable).mapM fun kind => do entryOfFields path (← kind.fields)

def readEntries (path : String) (content : ByteArray) : Except Failure (List Entry) :=
  match Toml.parseBytes content with
  | some document => entriesOf path document
  | none => throw (.ofCause (.declaration (.malformedCatalog path)))

def loadEntries (t : FileTree) (p : Path) : Except Failure (List Entry) := do
  readEntries p.text (← t.read p)

end StructureDerive.Catalog
