import StructureDerive.Text.Blank

/-! # Numerals

Reading of decimal integers as they are typed: blanks around, a sign, single underscores between
digits, and the decimal digits of any script.
-/
namespace StructureDerive.Numeral

def digitValue? (base : Nat) (c : Char) : Option Nat :=
  let n := c.toNat
  let value :=
    if c.isDigit then n - '0'.toNat
    else if c.isLower then n - 'a'.toNat + 10
    else if c.isUpper then n - 'A'.toNat + 10
    else base
  if value < base then some value else none

def isDigit (base : Nat) (c : Char) : Bool := (digitValue? base c).isSome

/-- Digits with single underscores in front of them: the digits alone, and the rest. -/
def digitRun (isDigit : Char → Bool) : List Char → List Char × List Char
  | '_' :: c :: rest =>
    if isDigit c then
      let (more, rest) := digitRun isDigit rest
      (c :: more, rest)
    else ([], '_' :: c :: rest)
  | c :: rest =>
    if isDigit c then
      let (more, rest) := digitRun isDigit rest
      (c :: more, rest)
    else ([], c :: rest)
  | [] => ([], [])

def leadingDigits (isDigit : Char → Bool) (cs : List Char) : List Char × List Char :=
  if (cs.head?.map isDigit).getD false then digitRun isDigit cs else ([], cs)

/-- The zeros of the scripts beyond ASCII. Each is followed by the digits one to nine. -/
def scriptZeros : List Nat :=
  [1632, 1776, 1984, 2406, 2534, 2662, 2790, 2918, 3046, 3174, 3302, 3430, 3558, 3664, 3792, 3872,
   4160, 4240, 6112, 6160, 6470, 6608, 6784, 6800, 6992, 7088, 7232, 7248, 42528, 43216, 43264,
   43472, 43504, 43600, 44016, 65296, 66720, 68912, 69734, 69872, 69942, 70096, 70384, 70736,
   70864, 71248, 71360, 71472, 71904, 72016, 72784, 73040, 73120, 92768, 92864, 93008, 120782,
   120792, 120802, 120812, 120822, 123200, 123632, 125264, 130032]

/-- A decimal digit of any script as its ASCII form; other characters are kept. -/
def asciiDigit (c : Char) : Char :=
  match scriptZeros.find? fun z => z ≤ c.toNat && c.toNat < z + 10 with
  | some z => Nat.digitChar (c.toNat - z)
  | none => c

def ofDigits? (base : Nat) (cs : List Char) : Option Nat :=
  cs.foldlM (fun n c => (digitValue? base c).map (n * base + ·)) 0

/-- Decimal numerals with more digits are neither read nor written. -/
def digitLimit : Nat := 4300

def unwritable : Nat := Nat.pow 10 digitLimit

def isWritable (n : Int) : Bool := n.natAbs < unwritable

def decimal? (cs : List Char) : Option Nat :=
  if digitLimit < cs.length then none else ofDigits? 10 cs

def dropUnderscores? : List Char → Option (List Char)
  | [] => none
  | [c] => if c = '_' then none else some [c]
  | c :: '_' :: rest => if c = '_' then none else (dropUnderscores? rest).map (c :: ·)
  | c :: rest => if c = '_' then none else (dropUnderscores? rest).map (c :: ·)

def natural? (cs : List Char) : Option Nat := dropUnderscores? cs >>= decimal?

/-- The blanks that may stand around a numeral. The separators of ASCII are none of them. -/
def isBlank (c : Char) : Bool := Text.isBlank c && !(28 ≤ c.toNat && c.toNat ≤ 31)

def integer? (s : String) : Option Int :=
  match (((s.toList.dropWhile isBlank).reverse.dropWhile isBlank).reverse).map asciiDigit with
  | '-' :: rest => (natural? rest).map fun n => -(n : Int)
  | '+' :: rest => (natural? rest).map Int.ofNat
  | cs => (natural? cs).map Int.ofNat

end StructureDerive.Numeral
