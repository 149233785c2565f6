import StructureDerive.Declaration.Generics

/-! # Instantiations

The concrete types with which the tests of a generic target are run: one tuple of types for each
instantiation, one type for each parameter that is not a lifetime.
-/
namespace StructureDerive.Instantiation

def isTypeStart (c : Char) : Bool :=
  c.isAlphanum || c == '_' || c == '&' || c == '[' || c == '('

def isTypeRest (c : Char) : Bool := Text.isWord c || ":<>, &'[];()".toList.contains c

/-- Angle brackets close only what was opened, and all are closed at the end. -/
def isBalancedFrom (depth : Nat) : List Char → Bool
  | [] => depth = 0
  | '<' :: rest => isBalancedFrom (depth + 1) rest
  | '>' :: rest => 0 < depth && isBalancedFrom (depth - 1) rest
  | _ :: rest => isBalancedFrom depth rest

def isType : List Char → Bool
  | [] => false
  | c :: rest => isTypeStart c && rest.all isTypeRest && isBalancedFrom 0 (c :: rest)

def ofTypeValue (given : Value) : Except Cause String :=
  match given with
  | .text s =>
    let stripped := Text.strip s
    if isType stripped.toList then .ok stripped
    else .error (.malformedInstantiation (.notConcrete stripped))
  | other => .error (.malformedInstantiation (.notTypeName other))

def typeValues (given : Value) : Except Cause (List Value) :=
  let read : Value := match given with
    | .text s => .list ((Text.splitTopLevel s).map .text)
    | other => other
  match read.sequence? with
  | some (item :: rest) => .ok (item :: rest)
  | _ => .error (.malformedInstantiation (.unreadable read))

def ofValue (expected : Nat) (given : Value) : Except Cause (List String) := do
  let types ← (← typeValues given).mapM ofTypeValue
  if expected = 0 then throw (.malformedInstantiation (.notGeneric types))
  if types.length ≠ expected then throw (.malformedInstantiation (.wrongCount types expected))
  return types

def parse (raw : Value) (g : Generics) : Except Cause (List (List String)) :=
  match raw with
  | .null => .ok []
  | .list items | .tuple items => items.mapM (ofValue g.instantiable.length)
  | other => .error (.malformedInstantiation (.notList other))

end StructureDerive.Instantiation
