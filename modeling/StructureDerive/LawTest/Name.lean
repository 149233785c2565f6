import StructureDerive.Catalog.Basic
import StructureDerive.Declaration.Target
import StructureDerive.Text.Word

/-! # Names in generated code

Identifiers made from type names, and the names of scopes, test modules and test functions.
-/
namespace StructureDerive

namespace Text

/-- Writes `::` as two underscores, so that `a::b` and `a_b` stay apart. -/
def separatorsAsUnderscores : List Char → List Char
  | ':' :: ':' :: rest => '_' :: '_' :: separatorsAsUnderscores rest
  | c :: rest => c :: separatorsAsUnderscores rest
  | [] => []

def collapseOthers : List Char → List Char
  | [] => []
  | [c] => [if isWord c then c else '_']
  | c :: d :: rest =>
    if isWord c then c :: collapseOthers (d :: rest)
    else if isWord d then '_' :: collapseOthers (d :: rest)
    else collapseOthers (d :: rest)

def trimUnderscores (cs : List Char) : List Char :=
  ((cs.dropWhile (· = '_')).reverse.dropWhile (· = '_')).reverse

def identifier (s : String) : String :=
  String.ofList (trimUnderscores (collapseOthers (separatorsAsUnderscores s.toList)))

end Text

namespace Target

/-- The constant that encloses the implementations of a target. -/
def scopeName (t : Target) : String :=
  "_ALGA_DERIVE_" ++ String.ofList (t.name.toList.map fun c => if Text.isWord c then c else '_')

def testModuleName (t : Target) : String := "_alga_quickcheck_" ++ Text.identifier t.name

def testName (t : Target) (law : String) (types : List String) (kind : String)
    (operators : List String) : String :=
  let instantiation := "_".intercalate (types.map Text.identifier)
  let middle := if instantiation = "" then "" else "_" ++ instantiation
  let suffix := String.join (operators.map fun op => "_" ++ Text.identifier op)
  s!"{law}_for_{Text.identifier t.name}{middle}_as_{kind}{suffix}"

end Target
end StructureDerive
