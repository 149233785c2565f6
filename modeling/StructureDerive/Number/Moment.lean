import StructureDerive.Number.Date
import StructureDerive.Number.Numeral

/-! # Times of day and moments

Times of day to the microsecond, and moments: a day with a time, and with the offset of its time zone
if it is known. `Clock.of?` and `Moment.of?` build only what exists.
-/
namespace StructureDerive

structure Clock where
  hour : Nat
  minute : Nat
  second : Nat
  microsecond : Nat
deriving DecidableEq, Repr

namespace Clock

/-- A time of day, whose fraction of a second is given by its digits. The first six count. -/
def of? (hour minute second : Nat) (fraction : List Char) : Option Clock := do
  let digits := fraction.take 6
  let microsecond ← Numeral.ofDigits? 10 (digits ++ List.replicate (6 - digits.length) '0')
  if hour < 24 ∧ minute < 60 ∧ second < 60 then some ⟨hour, minute, second, microsecond⟩ else none

def fields (c : Clock) : List Nat :=
  [c.hour, c.minute] ++
    if c.microsecond ≠ 0 then [c.second, c.microsecond]
    else if c.second ≠ 0 then [c.second]
    else []

def text (c : Clock) : String :=
  s!"{Date.padded 2 c.hour}:{Date.padded 2 c.minute}:{Date.padded 2 c.second}" ++
    if c.microsecond = 0 then "" else "." ++ Date.padded 6 c.microsecond

end Clock

/-- The offset is in minutes. -/
structure Moment where
  date : Date
  clock : Clock
  offset : Option Int := none
deriving DecidableEq, Repr

namespace Moment

def of? (date : Date) (clock : Clock) (offset : Option Int) : Option Moment :=
  if offset.all fun minutes => minutes.natAbs < 24 * 60 then some ⟨date, clock, offset⟩ else none

def offsetText (minutes : Int) : String :=
  let n := minutes.natAbs
  (if minutes < 0 then "-" else "+") ++ s!"{Date.padded 2 (n / 60)}:{Date.padded 2 (n % 60)}"

/-- Day and time with a space between them, as in `1979-05-27 07:32:00+01:00`. -/
def text (m : Moment) : String :=
  s!"{m.date.text} {m.clock.text}" ++ (m.offset.map offsetText).getD ""

end Moment

def offsetMinutes (negative : Bool) (hours minutes : Nat) : Int :=
  if negative then -((60 * hours + minutes : Nat) : Int) else (60 * hours + minutes : Nat)

end StructureDerive
