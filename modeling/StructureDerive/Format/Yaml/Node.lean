import StructureDerive.Format.Yaml.Scalar

/-! # YAML nodes

The structure of a document before its plain scalars are given a meaning, and the value of a node. Of
equal keys the last one counts. The key `<<` merges the pairs of other mappings, which go before the
pairs of the mapping itself.
-/
namespace StructureDerive.Yaml

inductive Node where
  | plain (text : String)
  | quoted (text : String)
  | sequence (items : List Node)
  | mapping (pairs : List (Node × Node))
deriving Inhabited

namespace Node

def absent : Node := .plain ""

mutual

def depth : Node → Nat
  | plain _ | quoted _ => 0
  | sequence items => depthOfItems items + 1
  | mapping pairs => depthOfPairs pairs + 1

def depthOfItems : List Node → Nat
  | [] => 0
  | item :: rest => max item.depth (depthOfItems rest)

def depthOfPairs : List (Node × Node) → Nat
  | [] => 0
  | (key, value) :: rest => max (max key.depth value.depth) (depthOfPairs rest)

end

abbrev Fields := List (Scalar × Value)

def assignAll (fields pairs : Fields) : Fields :=
  pairs.foldl (fun fields (key, value) => Value.assign fields key value) fields

def tableFields? : Value → Option Fields
  | .table fields => some fields
  | _ => none

/-- The pairs of a merged mapping, or of a list of mappings, of which the first one counts most. -/
def mergedFields? : Value → Option Fields
  | .table fields => some fields
  | .list items => (items.mapM tableFields?).map fun tables => tables.reverse.flatten
  | _ => none

structure Pairs where
  merged : Fields := []
  own : Fields := []

/-- Adds a pair in front. Only scalars are keys, and an equals sign is a plain key. -/
def Pairs.cons? (p : Pairs) (key : Node) (keyValue : Option Value) (value : Value) : Option Pairs :=
  match key, keyValue with
  | .plain "<<", _ => (mergedFields? value).map fun fields => { p with merged := fields ++ p.merged }
  | .plain "=", _ => some { p with own := (.text "=", value) :: p.own }
  | _, some (.scalar s) => some { p with own := (s, value) :: p.own }
  | _, _ => none

mutual

def value? : Node → Option Value
  | plain text => (plainScalar text).map .scalar
  | quoted text => some (.text text)
  | sequence items => (values? items).map .list
  | mapping pairs => (pairsOf? pairs).map fun p => .table (assignAll (assignAll [] p.merged) p.own)

def values? : List Node → Option (List Value)
  | [] => some []
  | item :: rest => do return (← item.value?) :: (← values? rest)

def pairsOf? : List (Node × Node) → Option Pairs
  | [] => some {}
  | (key, value) :: rest => do (← pairsOf? rest).cons? key key.value? (← value.value?)

end

end Node
end StructureDerive.Yaml
