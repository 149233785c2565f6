import StructureDerive.Catalog.Basic

/-! # Consistency of catalogs

A catalog is consistent when every list of implied kinds is closed: it names known kinds of the
right arity, together with all that these imply in turn.
-/
namespace StructureDerive
variable [Host]

inductive Slot where
  | slot0
  | slot1
  | joint
deriving DecidableEq, Repr

namespace Slot

def label : Slot → String
  | slot0 => "slot0"
  | slot1 => "slot1"
  | joint => "joint"

def list : Slot → Entry → List String
  | slot0, e => e.slot0
  | slot1, e => e.slot1
  | joint, e => e.joint

/-- The arity of the kinds that a slot may list. -/
def dependencyArity : Slot → Int
  | joint => 2
  | _ => 1

end Slot

inductive Inconsistency where
  | arityOutOfRange (kind : String) (arity : Int)
  | slotsOfOneOperator (kind : String)
  | unknownDependency (kind : String) (slot : Slot) (dependency : String)
  | wrongDependencyArity (kind : String) (slot : Slot) (dependency : String)
  | notClosed (kind : String) (slot : Slot) (dependency : String) (missing : List String)
deriving DecidableEq, Repr

def Inconsistency.text : Inconsistency → Except Fault String
  | arityOutOfRange kind arity =>
    return s!"{kind}: arity must be 1 or 2, got {← intText arity}"
  | slotsOfOneOperator kind =>
    return s!"{kind}: 1-ary kinds cannot declare slot1 or joint dependencies"
  | unknownDependency kind slot dependency =>
    return s!"{kind}: {slot.label} dependency `{dependency}` is not a known kind"
  | wrongDependencyArity kind slot dependency =>
    return s!"{kind}: {slot.label} dependency `{dependency}` must be {slot.dependencyArity}-ary"
  | notClosed kind slot dependency missing =>
    return s!"{kind}: {slot.label} is not closed under `{dependency}` (missing {commaList missing})"

namespace Catalog

def closure (kind : String) (slot : Slot) (dependency : String) (inherited own : List String) :
    List Inconsistency :=
  let missing := inherited.filter (· ∉ own)
  if missing.isEmpty then [] else [.notClosed kind slot dependency missing]

def checkDependency (c : Catalog) (e : Entry) (slot : Slot)
    (close : Entry → String → List Inconsistency) (dependency : String) : List Inconsistency :=
  match c.find? dependency with
  | none => [.unknownDependency e.kind slot dependency]
  | some d =>
    if d.arity ≠ slot.dependencyArity then [.wrongDependencyArity e.kind slot dependency]
    else close d dependency

/-- A slot of one operator takes over what its kinds imply under their own operator. -/
def checkSlot (c : Catalog) (e : Entry) (slot : Slot) : List Inconsistency :=
  (slot.list e).flatMap <| c.checkDependency e slot fun d dependency =>
    closure e.kind slot dependency d.slot0 (slot.list e)

/-- Kinds under all operators hand down each of their lists. -/
def checkJoint (c : Catalog) (e : Entry) : List Inconsistency :=
  e.joint.flatMap <| c.checkDependency e .joint fun d dependency =>
    [Slot.joint, .slot0, .slot1].flatMap fun slot =>
      closure e.kind slot dependency (slot.list d) (slot.list e)

def checkEntry (c : Catalog) (e : Entry) : List Inconsistency :=
  if e.arity ≠ 1 ∧ e.arity ≠ 2 then [.arityOutOfRange e.kind e.arity]
  else
    (if e.arity = 1 ∧ ¬(e.slot1.isEmpty ∧ e.joint.isEmpty) then [.slotsOfOneOperator e.kind]
      else []) ++
      c.checkSlot e .slot0 ++ c.checkSlot e .slot1 ++ c.checkJoint e

def inconsistencies (c : Catalog) : List Inconsistency := c.entries.flatMap c.checkEntry

/-- Puts the last new entry of each kind in place of the first old one; the others follow. -/
def replaceKnown : List Entry → List Entry → List Entry
  | [], extra => extra
  | e :: known, extra =>
    match ofKind? extra e.kind with
    | some replacement => replacement :: replaceKnown known (extra.filter (·.kind ≠ e.kind))
    | none => e :: replaceKnown known extra

/-- A catalog with entries added or replaced, if it is consistent. -/
def extended (c : Catalog) (extra : List Entry) : Except Failure Catalog := do
  let extension : Catalog := ⟨replaceKnown c.entries extra⟩
  match extension.inconsistencies with
  | [] => return extension
  | problems => throw (.ofCause (.inconsistentCatalog (← problems.mapM (·.text))))

end Catalog
end StructureDerive
