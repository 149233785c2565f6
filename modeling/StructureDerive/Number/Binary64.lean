/-! # Binary floating point numbers

The numbers of the 64-bit binary format: a significand below `2 ^ 53` times a power of two.
`ofDecimal` rounds a decimal numeral to the nearest of them, a tie going to the even significand.
-/
namespace StructureDerive

/-- A finite number is `significand * 2 ^ exponent`; zero keeps its sign. -/
inductive Binary64 where
  | nan
  | infinite (negative : Bool)
  | finite (negative : Bool) (significand : Nat) (exponent : Int)
deriving DecidableEq, Repr

namespace Binary64

def leastExponent : Int := -1074

def greatestExponent : Int := 971

/-- The nearest natural number to a quotient, a tie going to the even one. -/
def roundQuotient (num den : Nat) : Nat :=
  let q := num / den
  let twice := 2 * (num % den)
  if twice < den then q else if den < twice then q + 1 else q + q % 2

def significandAt (num den : Nat) (exponent : Int) : Nat :=
  if 0 ≤ exponent then roundQuotient num (den * Nat.pow 2 exponent.toNat)
  else roundQuotient (num * Nat.pow 2 (-exponent).toNat) den

def normalised (negative : Bool) (significand : Nat) (exponent : Int) : Binary64 :=
  let (s, e) :=
    if significand = Nat.pow 2 53 then (Nat.pow 2 52, exponent + 1) else (significand, exponent)
  if greatestExponent < e then .infinite negative else .finite negative s e

def ofQuotient (negative : Bool) (num den : Nat) : Binary64 :=
  if num = 0 then .finite negative 0 leastExponent
  else
    let guess : Int := (num.log2 : Int) - den.log2 - 52
    let full (e : Int) : Bool :=
      if 0 ≤ e then den * Nat.pow 2 (52 + e.toNat) ≤ num
      else den * Nat.pow 2 52 ≤ num * Nat.pow 2 (-e).toNat
    let exponent := max (if full guess then guess else guess - 1) leastExponent
    normalised negative (significandAt num den exponent) exponent

def digitCount (n : Nat) : Nat := (Nat.toDigits 10 n).length

/-- `digits * 10 ^ exponent`, rounded. Magnitudes far out of range are settled without a power. -/
def ofDecimal (negative : Bool) (digits : Nat) (exponent : Int) : Binary64 :=
  let size := (digitCount digits : Int) + exponent
  if digits = 0 || size < -330 then .finite negative 0 leastExponent
  else if 320 < size then .infinite negative
  else if 0 ≤ exponent then ofQuotient negative (digits * Nat.pow 10 exponent.toNat) 1
  else ofQuotient negative digits (Nat.pow 10 (-exponent).toNat)

def ofScaled (negative : Bool) (magnitude : Nat) (exponent : Int) : Binary64 :=
  if 0 ≤ exponent then ofQuotient negative (magnitude * Nat.pow 2 exponent.toNat) 1
  else ofQuotient negative magnitude (Nat.pow 2 (-exponent).toNat)

def ofNat? (n : Nat) : Option Binary64 :=
  match ofQuotient false n 1 with
  | .infinite _ => none
  | x => some x

def mul : Binary64 → Binary64 → Binary64
  | finite a s e, finite b t f => ofScaled (a != b) (s * t) (e + f)
  | infinite a, infinite b => infinite (a != b)
  | infinite a, finite b s _ | finite b s _, infinite a => if s = 0 then nan else infinite (a != b)
  | nan, _ | _, nan => nan

def signed (negative : Bool) (n : Nat) : Int := if negative then -(n : Int) else n

/-- Sums are taken at the lower of the two exponents. A sum of two negative zeros is negative. -/
def add : Binary64 → Binary64 → Binary64
  | finite a s e, finite b t f =>
    let low := min e f
    let sum := signed a (s * Nat.pow 2 (e - low).toNat) + signed b (t * Nat.pow 2 (f - low).toNat)
    if sum = 0 then finite (a && b) 0 leastExponent else ofScaled (sum < 0) sum.natAbs low
  | infinite a, infinite b => if a = b then infinite a else nan
  | infinite a, finite .. | finite .., infinite a => infinite a
  | nan, _ | _, nan => nan

def neg : Binary64 → Binary64
  | finite a s e => finite (!a) s e
  | infinite a => infinite (!a)
  | nan => nan

def isZero : Binary64 → Bool
  | finite _ 0 _ => true
  | _ => false

def truncated : Binary64 → Option Int
  | finite negative s e =>
    let magnitude := if 0 ≤ e then s * Nat.pow 2 e.toNat else s / Nat.pow 2 (-e).toNat
    some (if negative then -(magnitude : Int) else magnitude)
  | _ => none

def toInt? (x : Binary64) : Option Int :=
  match x with
  | finite _ s e => if 0 ≤ e || s % Nat.pow 2 (-e).toNat = 0 then x.truncated else none
  | _ => none

end Binary64
end StructureDerive
