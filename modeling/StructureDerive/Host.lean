import StructureDerive.Screen
import StructureDerive.Text.Surrogate
import StructureDerive.Value

/-! # Hosts

What a run takes from the machine and the libraries that it runs on. All that follows holds on every
host.
-/
namespace StructureDerive

class Host where
  /-- How many steps a recursion can go down. Reading a document and writing a value both count. -/
  depthLimit : Nat
  /-- The surrogate that a character stands for. No text of a run holds such a character for itself. -/
  surrogate? : Char → Option Surrogate
  isPrivateUse_of_surrogate? : ∀ {c : Char} {s : Surrogate},
    surrogate? c = some s → Text.isPrivateUse c
  /-- The value of a YAML document, unless the document is malformed. -/
  readYaml : String → Option Value
  /-- Whether a character can be printed. -/
  prints : Char → Bool
  prints_of_ascii : ∀ {c : Char}, c.toNat < 128 → prints c
  screen : Screen

namespace Text
variable [Host]

def isStandIn (c : Char) : Bool := (Host.surrogate? c).isSome

/-- The code point that a character is or stands for. -/
def codeOf (c : Char) : Nat := ((Host.surrogate? c).map (·.code)).getD c.toNat

/-- The bytes of a text. A surrogate has none. -/
def utf8? (s : String) : Option ByteArray :=
  if s.toList.any isStandIn then none else some s.toUTF8

def isPrinted (s : String) : Bool := s.toList.all Host.prints

end Text
end StructureDerive
