import StructureDerive.Value

/-! # Numbers and dates in TOML

A number is read as far as it goes; what cannot continue it is left to the caller.
-/
namespace StructureDerive.Toml

def based? (base : Nat) (cs : List Char) : Option (Value × List Char) :=
  match Numeral.leadingDigits (Numeral.isDigit base) cs with
  | ([], _) => none
  | (ds, rest) => (Numeral.ofDigits? base ds).map fun n => (.int n, rest)

/-- The digits before the point. A zero stands alone. -/
def wholeDigits : List Char → List Char × List Char
  | '0' :: rest => (['0'], rest)
  | cs => Numeral.leadingDigits (·.isDigit) cs

def fractionDigits : List Char → List Char × List Char
  | '.' :: rest =>
    match Numeral.leadingDigits (·.isDigit) rest with
    | ([], _) => ([], '.' :: rest)
    | read => read
  | cs => ([], cs)

def signed (cs : List Char) : Bool × List Char :=
  match cs with
  | '-' :: rest => (true, rest)
  | '+' :: rest => (false, rest)
  | _ => (false, cs)

def exponent? : List Char → Option (Int × List Char)
  | c :: rest =>
    if c = 'e' ∨ c = 'E' then
      let (negative, rest) := signed rest
      match Numeral.leadingDigits (·.isDigit) rest with
      | ([], _) => none
      | (ds, rest) => (Numeral.ofDigits? 10 ds).map fun n => (if negative then -(n : Int) else n, rest)
    else none
  | [] => none

/-- A number with an optional sign. A fraction or a power of ten makes it a real one. -/
def decimal? (cs : List Char) : Option (Value × List Char) := do
  let (negative, rest) := signed cs
  let (whole, rest) := wholeDigits rest
  if whole.isEmpty then none
  let (fraction, rest) := fractionDigits rest
  let n ← Numeral.ofDigits? 10 (whole ++ fraction)
  match exponent? rest with
  | some (power, rest) => return (.real (.ofDecimal negative n (power - fraction.length)), rest)
  | none =>
    if fraction.isEmpty then
      if Numeral.digitLimit < whole.length then none
      return (.int (if negative then -(n : Int) else n), rest)
    else return (.real (.ofDecimal negative n (-(fraction.length : Int))), rest)

def special? (cs : List Char) : Option (Value × List Char) :=
  let (negative, rest) := signed cs
  match rest with
  | 'i' :: 'n' :: 'f' :: rest => some (.real (.infinite negative), rest)
  | 'n' :: 'a' :: 'n' :: rest => some (.real .nan, rest)
  | _ => none

def date? : List Char → Option (Date × List Char)
  | a :: b :: c :: d :: '-' :: e :: f :: '-' :: g :: h :: rest => do
    let year ← Numeral.ofDigits? 10 [a, b, c, d]
    let month ← Numeral.ofDigits? 10 [e, f]
    let day ← Numeral.ofDigits? 10 [g, h]
    return (← Date.of? year month day, rest)
  | _ => none

def clock? : List Char → Option (Clock × List Char)
  | a :: b :: ':' :: c :: d :: ':' :: e :: f :: rest => do
    let hour ← Numeral.ofDigits? 10 [a, b]
    let minute ← Numeral.ofDigits? 10 [c, d]
    let second ← Numeral.ofDigits? 10 [e, f]
    let (fraction, rest) := match rest with
      | '.' :: g :: more =>
        if g.isDigit then ((g :: more).takeWhile (·.isDigit), more.dropWhile (·.isDigit))
        else ([], rest)
      | _ => ([], rest)
    return (← Clock.of? hour minute second fraction, rest)
  | _ => none

def offset? : List Char → Option (Int × List Char)
  | 'Z' :: rest | 'z' :: rest => some (0, rest)
  | sign :: a :: b :: ':' :: c :: d :: rest => do
    let hours ← Numeral.ofDigits? 10 [a, b]
    let minutes ← Numeral.ofDigits? 10 [c, d]
    if (sign = '+' ∨ sign = '-') ∧ hours < 24 ∧ minutes < 60 then
      some (offsetMinutes (sign = '-') hours minutes, rest)
    else none
  | _ => none

def moment? (cs : List Char) : Option (Value × List Char) := do
  let (date, rest) ← date? cs
  let separated := match rest with
    | 'T' :: more | 't' :: more | ' ' :: more => clock? more
    | _ => none
  match separated with
  | none => return (.date date, rest)
  | some (clock, rest) =>
    match offset? rest with
    | some (offset, rest) => return (.moment ⟨date, clock, some offset⟩, rest)
    | none => return (.moment ⟨date, clock, none⟩, rest)

def number? (cs : List Char) : Option (Value × List Char) :=
  match cs with
  | '0' :: 'x' :: rest => based? 16 rest
  | '0' :: 'o' :: rest => based? 8 rest
  | '0' :: 'b' :: rest => based? 2 rest
  | _ => moment? cs <|> ((clock? cs).map fun (clock, rest) => (.clock clock, rest)) <|>
      decimal? cs <|> special? cs

end StructureDerive.Toml
