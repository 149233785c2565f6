/-! # Characters and their places

A document as its characters, each with its line and column. A NUL, which no document holds, stands
at the end.
-/
namespace StructureDerive.Yaml

structure Place where
  char : Char
  line : Nat
  column : Nat
  index : Nat

def endChar : Char := '\x00'

def isBreak (c : Char) : Bool := c = '\n' || c = '\x85' || c = '\u2028' || c = '\u2029'

def isGap (c : Char) : Bool := c = endChar || c = ' ' || c = '\t' || isBreak c

def isAllowed (c : Char) : Bool :=
  let n := c.toNat
  n = 9 || n = 10 || n = 13 || (0x20 ≤ n && n ≤ 0x7E) || n = 0x85 || (0xA0 ≤ n && n ≤ 0xD7FF) ||
    (0xE000 ≤ n && n ≤ 0xFFFD) || 0x10000 ≤ n

/-- The characters from a line and column on. A byte order mark takes no column. -/
def placesFrom (line column index : Nat) : List Char → List Place
  | [] => [⟨endChar, line, column, index⟩]
  | c :: rest =>
    ⟨c, line, column, index⟩ ::
      if isBreak c then placesFrom (line + 1) 0 (index + 1) rest
      else placesFrom line (if c = '\uFEFF' then column else column + 1) (index + 1) rest

def charAt (places : List Place) (n : Nat) : Char := (places[n]?.map (·.char)).getD endChar

def isMarker (places : List Place) : Bool :=
  let three (c : Char) := charAt places 0 = c && charAt places 1 = c && charAt places 2 = c
  (three '-' || three '.') && isGap (charAt places 3)

end StructureDerive.Yaml
