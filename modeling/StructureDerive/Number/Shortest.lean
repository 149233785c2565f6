import StructureDerive.Number.Binary64

/-! # Shortest decimal digits

The fewest decimal digits that read back as the same binary number, and among those the nearest.
For 1, 2, … 17 digits the two neighbours of the number on that decimal grid are tried.
-/
namespace StructureDerive.Binary64

/-- A magnitude `value / unit` with the ends `low / unit` and `high / unit` of the magnitudes that
round to it. The ends belong to the interval when the significand is even. -/
structure Rounding where
  low : Nat
  value : Nat
  high : Nat
  unit : Nat
  closed : Bool

/-- Below a power of two the neighbours lie half as far apart. -/
def rounding (significand : Nat) (exponent : Int) : Rounding :=
  let narrow := significand = Nat.pow 2 52 && leastExponent < exponent
  let scale := Nat.pow 2 (exponent - 2).toNat
  { low := (4 * significand - if narrow then 1 else 2) * scale
    value := 4 * significand * scale
    high := (4 * significand + 2) * scale
    unit := Nat.pow 2 (2 - exponent).toNat
    closed := significand % 2 = 0 }

def Rounding.covers (r : Rounding) (num den : Nat) : Bool :=
  if r.closed then r.low * den ≤ num * r.unit && num * r.unit ≤ r.high * den
  else r.low * den < num * r.unit && num * r.unit < r.high * den

/-- The least power of ten, from `k` on, that lifts `num / den` to 1 or more. -/
def liftingPower (num den : Nat) : Nat → Nat → Nat
  | 0, k => k
  | fuel + 1, k => if den ≤ num * Nat.pow 10 k then k else liftingPower num den fuel (k + 1)

/-- The place of the first digit of `num / den`: 0 for units, negative after the point. -/
def leadingPlace (num den : Nat) : Int :=
  if den ≤ num then (digitCount (num / den) : Int) - 1 else -(liftingPower num den 400 1 : Int)

def gridPoint (factor : Nat) (place : Int) : Nat × Nat :=
  (factor * Nat.pow 10 place.toNat, Nat.pow 10 (-place).toNat)

def Rounding.onGrid (r : Rounding) (place : Int) : Option Nat :=
  let (num, den) := gridPoint 1 place
  let below := r.value * den / (r.unit * num)
  let hits (factor : Nat) : Bool := let (n, d) := gridPoint factor place; r.covers n d
  let twiceRest := 2 * (r.value * den - below * (r.unit * num))
  match hits below, hits (below + 1) with
  | true, true =>
    if twiceRest < r.unit * num then some below
    else if r.unit * num < twiceRest then some (below + 1)
    else some (below + below % 2)
  | true, false => some below
  | false, true => some (below + 1)
  | false, false => none

def Rounding.search (r : Rounding) : Nat → Int → Nat × Int
  | 0, place => ((r.onGrid place).getD 0, place)
  | finer + 1, place =>
    match r.onGrid place with
    | some factor => (factor, place)
    | none => r.search finer (place - 1)

def shortest (significand : Nat) (exponent : Int) : Nat × Int :=
  let r := rounding significand exponent
  r.search 17 (leadingPlace r.value r.unit)

def dropZeros : Nat → Nat × Int → Nat × Int
  | 0, d => d
  | fuel + 1, (factor, place) =>
    if factor ≠ 0 ∧ factor % 10 = 0 then dropZeros fuel (factor / 10, place + 1)
    else (factor, place)

def signText (negative : Bool) : String := if negative then "-" else ""

def positional (digits : List Char) (place : Int) : String :=
  if 0 ≤ place then String.ofList (digits ++ List.replicate place.toNat '0') ++ ".0"
  else
    let after := (-place).toNat
    if after < digits.length then
      let before := digits.length - after
      String.ofList (digits.take before) ++ "." ++ String.ofList (digits.drop before)
    else "0." ++ String.ofList (List.replicate (after - digits.length) '0' ++ digits)

def scientific (digits : List Char) (exponent : Int) : String :=
  let fraction := digits.drop 1
  let mantissa := digits.take 1 ++ if fraction.isEmpty then [] else '.' :: fraction
  let power := toString exponent.natAbs
  String.ofList mantissa ++ (if exponent < 0 then "e-" else "e+") ++
    (if power.length < 2 then "0" ++ power else power)

/-- The shortest text: positional for first digits from `10 ^ -4` to below `10 ^ 16`. -/
def text : Binary64 → String
  | nan => "nan"
  | infinite negative => signText negative ++ "inf"
  | finite negative 0 _ => signText negative ++ "0.0"
  | finite negative s e =>
    let (factor, place) := dropZeros 20 (shortest s e)
    let digits := Nat.toDigits 10 factor
    let leading := place + digits.length - 1
    signText negative ++
      if -4 ≤ leading && leading < 16 then positional digits place else scientific digits leading

end StructureDerive.Binary64
