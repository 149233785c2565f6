import StructureDerive.Declaration.Attribute
import StructureDerive.Declaration.Generics

/-! # Targets

The types for which implementations are derived, and all that is declared for one of them.
-/
namespace StructureDerive
variable [Host]

structure Target where
  name : String
  generics : Generics := {}
  predicates : List String := []
deriving DecidableEq, Repr

namespace Target

def type (t : Target) : String := t.name ++ t.generics.named

/-- The type with concrete arguments, or with its own parameters when none are given. -/
def typeWith (t : Target) : Option (List String) → Except Fault String
  | none => .ok t.type
  | some arguments => return t.name ++ (← t.generics.instantiate arguments)

end Target

/-- `approx` and `guard` take the place of the configured settings when they are given. -/
structure Declaration where
  target : Target
  entries : List TraitEntry := []
  tested : Bool := false
  instantiations : List Value := []
  approx : Option Bool := none
  guard : Value := .null

namespace Declaration

/-- A text by itself, or the texts of a list that hold more than blanks. -/
def textList (subject : String) : Value → Except Cause (List String)
  | .null => .ok []
  | .text s => .ok [s]
  | .list items =>
    match items.mapM Value.text? with
    | some texts => .ok (texts.filterMap Text.nonBlank?)
    | none => .error (.declaration (.notTexts subject))
  | _ => .error (.declaration (.notTexts subject))

def traitEntry (target : String) : Value → Except Failure TraitEntry
  | .text s => do TraitEntry.parse s
  | .table [(key, argument)] => do return ⟨← (Value.scalar key).plainText, argument⟩
  | other => throw (.ofCause (.declaration (.unreadableEntry target other)))

def traitEntries (target : String) (traits : List Value) : Except Failure (List TraitEntry) :=
  traits.mapM (traitEntry target)

def testSettings (target : Target) (entries : List TraitEntry) (raw : Value) : Declaration :=
  match raw with
  | .table fields =>
    { target, entries
      tested := ((Value.lookup fields "enabled").map Value.truth).getD true
      instantiations := match Value.lookup fields "check" with
        | none | some .null => []
        | some (.list items) => items
        | some single => [single]
      approx := (Value.lookup fields "approx").map Value.truth
      guard := (Value.lookup fields "guard").getD .null }
  | other => { target, entries, tested := other.truth }

def ofFields (fields : List (Scalar × Value)) (position : Int) : Except Failure Declaration := do
  let field (name : String) (absent : Value) := (Value.lookup fields name).getD absent
  let some name := (field "name" .null).text?.bind Text.nonBlank?
    | throw (.ofCause (.declaration (.unnamedTarget position)))
  let .list traits := field "traits" (.list [])
    | throw (.ofCause (.declaration (.traitsNotList name)))
  let entries ← traitEntries name traits
  let generics ← Generics.parse (field "generics" .null)
  let predicates ← textList s!"{name}.where" (field "where" .null)
  return testSettings { name, generics, predicates } entries (field "quickcheck" (.bool false))

end Declaration
end StructureDerive
