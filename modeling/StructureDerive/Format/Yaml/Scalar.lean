import StructureDerive.Number.Numeral
import StructureDerive.Value

/-! # Plain scalars in YAML

What a scalar without quotes stands for: nothing, a truth value, a number, a day, a moment, or its
text.
-/
namespace StructureDerive.Yaml

def nullWords : List String := ["", "~", "null", "Null", "NULL"]

def trueWords : List String := ["yes", "Yes", "YES", "true", "True", "TRUE", "on", "On", "ON"]

def falseWords : List String := ["no", "No", "NO", "false", "False", "FALSE", "off", "Off", "OFF"]

def signed : List Char → Bool × List Char
  | '-' :: rest => (true, rest)
  | '+' :: rest => (false, rest)
  | cs => (false, cs)

def isDigitOrMark (base : Nat) (c : Char) : Bool :=
  c = '_' || Numeral.isDigit base c

def dropMarks (cs : List Char) : List Char := cs.filter (· ≠ '_')

def isDecimalDigits : List Char → Bool
  | c :: rest => c.isDigit && rest.all (isDigitOrMark 10)
  | [] => false

def isSixty : List Char → Bool
  | [c] => c.isDigit
  | [d, c] => d.isDigit && d.toNat < '6'.toNat && c.isDigit
  | _ => false

def sixties (parts : List (List Char)) : Option Nat :=
  parts.foldlM (fun n part => (Numeral.decimal? (dropMarks part)).map (n * 60 + ·)) 0

/-- The form of a whole number: `none` for no number, and `some none` for one without digits. -/
def natural? (cs : List Char) : Option (Option Nat) :=
  let digitsOf (base : Nat) (ds : List Char) : Option Nat :=
    if (dropMarks ds).isEmpty then none else Numeral.ofDigits? base (dropMarks ds)
  match cs with
  | '0' :: 'b' :: c :: rest =>
    if (c :: rest).all (isDigitOrMark 2) then some (digitsOf 2 (c :: rest)) else none
  | '0' :: 'x' :: c :: rest =>
    if (c :: rest).all (isDigitOrMark 16) then some (digitsOf 16 (c :: rest)) else none
  | '0' :: rest => if rest.all (isDigitOrMark 8) then some (digitsOf 8 cs) else none
  | _ =>
    match cs.splitOn ':' with
    | [] => none
    | first :: parts =>
      if isDecimalDigits first && parts.all isSixty then some (sixties (first :: parts)) else none

def exponent? : List Char → Option Int
  | [] => some 0
  | c :: '-' :: d :: rest => if c = 'e' ∨ c = 'E' then (power? (d :: rest)).map (- ·) else none
  | c :: '+' :: d :: rest => if c = 'e' ∨ c = 'E' then power? (d :: rest) else none
  | _ => none
where
  power? (ds : List Char) : Option Int :=
    if ds.all (·.isDigit) then (Numeral.ofDigits? 10 ds).map Int.ofNat else none

def realParts? (cs : List Char) : Option (List Char × List Char × Int) :=
  let whole := cs.takeWhile (isDigitOrMark 10)
  match cs.dropWhile (isDigitOrMark 10) with
  | '.' :: rest =>
    let fraction := rest.takeWhile (isDigitOrMark 10)
    let isNumber := isDecimalDigits whole || (whole.isEmpty && isDecimalDigits fraction)
    if isNumber then
      (exponent? (rest.dropWhile (isDigitOrMark 10))).map fun power =>
        (dropMarks whole, dropMarks fraction, power)
    else none
  | _ => none

def real? (negative : Bool) (cs : List Char) : Option Binary64 := do
  let (whole, fraction, power) ← realParts? cs
  let n ← Numeral.ofDigits? 10 (whole ++ fraction)
  return .ofDecimal negative n (power - fraction.length)

/-- The parts of a number in base 60, from the last one on, times the powers of 60. Every step is
rounded, and no power may be infinite. -/
def sumSixties : Binary64 → Nat → List Binary64 → Option Binary64
  | sum, _, [] => some sum
  | sum, power, part :: parts => do
    sumSixties (sum.add (part.mul (← Binary64.ofNat? power))) (power * 60) parts

/-- A number in base 60 whose last part has a fraction, if the text has its form: `some none` if it
is too large to be read. -/
def realSixties? (negative : Bool) (cs : List Char) : Option (Option Binary64) :=
  let before := cs.takeWhile (· ≠ '.')
  let fraction := (cs.dropWhile (· ≠ '.')).drop 1
  match before.splitOn ':' with
  | first :: part :: parts =>
    if cs.contains '.' && isDecimalDigits first && (part :: parts).all isSixty &&
        fraction.all (isDigitOrMark 10) then
      let decimal (part fraction : List Char) : Option Binary64 :=
        (Numeral.ofDigits? 10 (part ++ fraction)).map fun n =>
          .ofDecimal false n (-(fraction.length : Int))
      some do
        let parts := (first :: part :: parts).map dropMarks
        let wholes ← parts.dropLast.mapM (decimal · [])
        let last ← decimal (parts.getLastD []) (dropMarks fraction)
        let x ← sumSixties (.finite false 0 Binary64.leastExponent) 1 (last :: wholes.reverse)
        return if negative then x.neg else x
    else none
  | _ => none

def specialReal? (given : String) : Option Binary64 :=
  if given ∈ [".nan", ".NaN", ".NAN"] then some .nan
  else
    let (negative, rest) := signed given.toList
    if String.ofList rest ∈ [".inf", ".Inf", ".INF"] then some (.infinite negative) else none

/-- Only numbers that start with a digit may have a sign. -/
def number? (given : String) : Option (Option Scalar) :=
  let (negative, cs) := signed given.toList
  let leading := (cs.head?.map (·.isDigit)).getD false || cs.length = given.length
  let real :=
    if leading then (real? negative cs).map some <|> realSixties? negative cs else none
  match (specialReal? given).map some <|> real with
  | some x => some (x.map .real)
  | none => (natural? cs).map fun n =>
      n.map fun n => .int (if negative then -(n : Int) else n)

def oneOrTwoDigits : List Char → Option (Nat × List Char)
  | c :: d :: rest =>
    if c.isDigit && d.isDigit then (Numeral.ofDigits? 10 [c, d]).map fun n => (n, rest)
    else if c.isDigit then (Numeral.ofDigits? 10 [c]).map fun n => (n, d :: rest)
    else none
  | [c] => if c.isDigit then (Numeral.ofDigits? 10 [c]).map fun n => (n, []) else none
  | [] => none

def twoDigits : List Char → Option (Nat × List Char)
  | c :: d :: rest =>
    if c.isDigit && d.isDigit then (Numeral.ofDigits? 10 [c, d]).map fun n => (n, rest) else none
  | _ => none

def after? (c : Char) : List Char → Option (List Char)
  | d :: rest => if c = d then some rest else none
  | [] => none

def skipBlanks (cs : List Char) : List Char := cs.dropWhile fun c => c = ' ' || c = '\t'

def offsetAtEnd? (cs : List Char) : Option (Option Int) :=
  match skipBlanks cs with
  | [] => if cs.isEmpty then some none else none
  | ['Z'] => some (some 0)
  | sign :: rest =>
    if sign = '+' ∨ sign = '-' then do
      let (hours, rest) ← oneOrTwoDigits rest
      let minutes ← match rest with
        | [] => some 0
        | _ => do
          let (minutes, rest) ← after? ':' rest >>= twoDigits
          if rest.isEmpty then some minutes else none
      return some (offsetMinutes (sign = '-') hours minutes)
    else none

structure WrittenMoment where
  year : Nat
  month : Nat
  day : Nat
  hour : Nat
  minute : Nat
  second : Nat
  fraction : List Char
  offset : Option Int

def writtenMoment? (cs : List Char) : Option WrittenMoment := do
  let (century, rest) ← twoDigits cs
  let (year, rest) ← twoDigits rest
  let (month, rest) ← after? '-' rest >>= oneOrTwoDigits
  let (day, rest) ← after? '-' rest >>= oneOrTwoDigits
  let rest ← match rest with
    | 'T' :: rest | 't' :: rest => some rest
    | ' ' :: rest | '\t' :: rest => some (skipBlanks rest)
    | _ => none
  let (hour, rest) ← oneOrTwoDigits rest
  let (minute, rest) ← after? ':' rest >>= twoDigits
  let (second, rest) ← after? ':' rest >>= twoDigits
  let (fraction, rest) := match rest with
    | '.' :: rest => (rest.takeWhile (·.isDigit), rest.dropWhile (·.isDigit))
    | _ => ([], rest)
  return ⟨100 * century + year, month, day, hour, minute, second, fraction, ← offsetAtEnd? rest⟩

def WrittenMoment.moment? (w : WrittenMoment) : Option Moment := do
  let date ← Date.of? w.year w.month w.day
  Moment.of? date (← Clock.of? w.hour w.minute w.second w.fraction) w.offset

/-- A day or a moment, if the text has the form of one; what does not exist is no scalar at all. -/
def date? : List Char → Option (Option Scalar)
  | [a, b, c, d, '-', e, f, '-', g, h] =>
    if [a, b, c, d, e, f, g, h].all (·.isDigit) then
      some do
        let year ← Numeral.ofDigits? 10 [a, b, c, d]
        let month ← Numeral.ofDigits? 10 [e, f]
        let day ← Numeral.ofDigits? 10 [g, h]
        return .date (← Date.of? year month day)
    else none
  | cs => (writtenMoment? cs).map fun w => w.moment?.map .moment

def plainScalar (given : String) : Option Scalar :=
  if given ∈ nullWords then some .null
  else if given ∈ trueWords then some (.bool true)
  else if given ∈ falseWords then some (.bool false)
  else if given = "=" ∨ given = "<<" then none
  else ((number? given <|> date? given.toList).getD (some (.text given)))

end StructureDerive.Yaml
