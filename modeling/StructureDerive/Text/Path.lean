import StructureDerive.Text.Word

/-! # Identifier paths

Identifiers, and paths of identifiers with `::` between them, both in ASCII.
-/
namespace StructureDerive.Text

def isIdentifier : List Char → Bool
  | [] => false
  | c :: rest => isIdentifierStart c && rest.all isIdentifierRest

inductive PathPlace where
  | segmentStart
  | segment
  | separator

def isPathFrom : PathPlace → List Char → Bool
  | .segment, [] => true
  | _, [] => false
  | .segmentStart, c :: rest => isIdentifierStart c && isPathFrom .segment rest
  | .segment, c :: rest =>
    if isIdentifierRest c then isPathFrom .segment rest
    else c = ':' && isPathFrom .separator rest
  | .separator, c :: rest => c = ':' && isPathFrom .segmentStart rest

def isPath (cs : List Char) : Bool := isPathFrom .segmentStart cs

def isLifetime : List Char → Bool
  | '\'' :: rest => isIdentifier rest
  | _ => false

end StructureDerive.Text
