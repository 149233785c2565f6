import StructureDerive.Request.Obligation
import StructureDerive.Text.Blank

/-! # Identity guards

A law that is undefined at the identity of another operator is tested only away from it: a guard
discards the inputs that equal the identity. A policy says which obligations get a guard.
-/
namespace StructureDerive
variable [Host]

/-- Discards inputs that equal the identity of `operator`. -/
structure Guard where
  operator : String
deriving DecidableEq, Repr

namespace Guard

/-- The guard by an operator that is given. The empty text gives none. -/
def ofOperator? (operator : Option String) : Option Guard := (operator.filter (· ≠ "")).map mk

def expression (g : Guard) (type : String) (arity : Int) : String :=
  let identity := s!"<{type} as _alga::general::Identity<{g.operator}>>::identity()"
  let checks := (List.range arity.toNat).map fun i => s!"args.{i} == {identity}"
  "if " ++ " || ".intercalate checks ++
    " \x7b\n    return ::quickcheck::TestResult::discard();\n\x7d"

end Guard

/-- Overrides map the label of an obligation to an operator, or to none for no guard. -/
structure GuardPolicy where
  enabled : Bool := true
  overrides : List (String × Option String) := []
deriving DecidableEq, Repr

namespace GuardPolicy

def override? (p : GuardPolicy) (label : String) : Option (Option String) :=
  (p.overrides.reverse.find? (·.1 = label)).map (·.2)

/-- A guarded kind under a second operator is guarded by its companion. -/
def companionGuard (o : Obligation) (entry : Entry) : Option Guard :=
  if entry.guarded then Guard.ofOperator? o.companion else none

def guardFor (p : GuardPolicy) (o : Obligation) (entry : Entry) : Option Guard :=
  if p.enabled then
    match p.override? o.label with
    | some operator => Guard.ofOperator? operator
    | none => companionGuard o entry
  else none

/-- Every field of a table but `enabled` is an override; a blank value stands for no guard. -/
def ofFields (fields : List (Scalar × Value)) : Except Fault GuardPolicy := do
  let overrides ← (fields.filter (·.1 ≠ .text "enabled")).mapM fun f => do
    return (← (Value.scalar f.1).plainText, Text.nonBlank? (← f.2.plainText))
  return { enabled := ((Value.lookup fields "enabled").map Value.truth).getD true, overrides }

def ofValue : Value → Except Failure GuardPolicy
  | .null => .ok {}
  | .bool enabled => .ok { enabled }
  | .table fields => do ofFields fields
  | _ => throw (.ofCause (.declaration .guardShape))

end GuardPolicy
end StructureDerive
