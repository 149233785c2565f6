/-! # Blanks

Blank characters, trimming, and texts that hold nothing but blanks.
-/
namespace StructureDerive.Text

/-- The blanks of every script. The zero-width space and the byte order mark are not blank. -/
def isBlank (c : Char) : Bool :=
  let n := c.toNat
  (9 ≤ n && n ≤ 13) || (28 ≤ n && n ≤ 32) || n == 0x85 || n == 0xA0 || n == 0x1680 ||
    (0x2000 ≤ n && n ≤ 0x200A) || n == 0x2028 || n == 0x2029 || n == 0x202F || n == 0x205F ||
    n == 0x3000

def trimLeft (cs : List Char) : List Char := cs.dropWhile isBlank

def trimRight (cs : List Char) : List Char := (cs.reverse.dropWhile isBlank).reverse

def trim (cs : List Char) : List Char := trimRight (trimLeft cs)

def strip (s : String) : String := String.ofList (trim s.toList)

def stripRight (s : String) : String := String.ofList (trimRight s.toList)

def allBlank (s : String) : Bool := s.toList.all isBlank

/-- The stripped text, unless nothing is left of it. -/
def nonBlank? (s : String) : Option String := if allBlank s then none else some (strip s)

end StructureDerive.Text
