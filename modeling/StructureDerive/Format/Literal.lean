import StructureDerive.Number.Numeral
import StructureDerive.Text.Word

/-! # Literals

Which texts are literals: numbers, quoted texts, truth values, and tuples, sets and tables of literals.
The value itself is not needed.
-/
namespace StructureDerive.Literal

/-- What matters about a literal. An imaginary number may be added to a real one and to nothing
else; tables and sets are not keys. -/
inductive Kind where
  | real
  | signedReal
  | imaginary
  | atom
  | container
deriving DecidableEq, Repr

def Kind.isKey (k : Kind) : Bool := k ≠ .container

/-- Blanks and comments. Line ends count as blanks between brackets. -/
def skipBlanks (inBrackets : Bool) : Bool → List Char → List Char
  | _, [] => []
  | inComment, c :: rest =>
    if c = '\n' ∨ c = '\r' then
      if inBrackets then skipBlanks inBrackets false rest else c :: rest
    else if inComment then skipBlanks inBrackets true rest
    else if c = ' ' ∨ c = '\t' ∨ c = '\x0c' then skipBlanks inBrackets false rest
    else if c = '#' then skipBlanks inBrackets true rest
    else c :: rest

def digits (base : Nat) (cs : List Char) : List Char × List Char :=
  Numeral.leadingDigits (Numeral.isDigit base) cs

/-- Digits after a mark of their base, with one underscore in front at most. -/
def based? (base : Nat) (cs : List Char) : Option (Kind × List Char) :=
  match Numeral.digitRun (Numeral.isDigit base) cs with
  | ([], _) => none
  | (_, rest) => some (.real, rest)

def dropExponent (cs : List Char) : List Char :=
  match cs with
  | c :: rest =>
    if c = 'e' ∨ c = 'E' then
      let unsigned := match rest with
        | '+' :: rest | '-' :: rest => rest
        | rest => rest
      match digits 10 unsigned with
      | ([], _) => cs
      | (_, rest) => rest
    else cs
  | [] => []

/-- Digits, a fraction and a power of ten. A whole number other than zero has no zero in front. -/
def decimal? (cs : List Char) : Option (Kind × List Char) :=
  let (whole, afterWhole) := digits 10 cs
  let (hasPoint, fraction, afterPoint) := match afterWhole with
    | '.' :: rest =>
      let (fraction, rest) := digits 10 rest
      (true, fraction, rest)
    | rest => (false, [], rest)
  if whole.isEmpty ∧ fraction.isEmpty then none
  else
    let rest := dropExponent afterPoint
    match rest with
    | 'j' :: rest | 'J' :: rest => some (.imaginary, rest)
    | _ =>
      let isWhole := !hasPoint && rest.length = afterPoint.length
      if isWhole && whole.head? = some '0' && whole.any (· ≠ '0') then none else some (.real, rest)

def number? (cs : List Char) : Option (Kind × List Char) := do
  let (kind, rest) ← match cs with
    | '0' :: 'x' :: rest | '0' :: 'X' :: rest => based? 16 rest
    | '0' :: 'o' :: rest | '0' :: 'O' :: rest => based? 8 rest
    | '0' :: 'b' :: rest | '0' :: 'B' :: rest => based? 2 rest
    | _ => decimal? cs
  if (rest.head?.map Text.isWord).getD false then none
  return (kind, rest)

structure Quoting where
  quote : Char
  triple : Bool
  raw : Bool
  bytes : Bool

def isEscape (q : Quoting) (c : Char) (rest : List Char) : Bool :=
  let code (width : Nat) : Bool :=
    (rest.take width).length = width &&
      (Numeral.ofDigits? 16 (rest.take width)).any (· < 0x110000)
  if q.raw then true
  else if c = 'x' then code 2
  else if q.bytes then true
  else if c = 'u' then code 4
  else if c = 'U' then code 8
  else c ≠ 'N'

def afterQuotes (q : Quoting) : List Char → Option (List Char)
  | [] => none
  | '\\' :: c :: rest =>
    if isEscape q c rest ∧ ¬(q.bytes ∧ 127 < c.toNat) then afterQuotes q rest else none
  | c :: rest =>
    if c = q.quote then
      if !q.triple then some rest
      else
        match rest with
        | d :: e :: rest => if d = c ∧ e = c then some rest else afterQuotes q (d :: e :: rest)
        | _ => none
    else if (c = '\n' ∧ ¬q.triple) ∨ (q.bytes ∧ 127 < c.toNat) then none
    else afterQuotes q rest

def prefixes : List String := ["", "r", "u", "b", "br", "rb"]

def quoted? (cs : List Char) : Option (Bool × List Char) :=
  let letters := cs.takeWhile (·.isAlpha)
  let marks := String.ofList (letters.map (·.toLower))
  if marks ∉ prefixes then none
  else
    let quoting (quote : Char) (triple : Bool) : Quoting :=
      ⟨quote, triple, marks.contains 'r', marks.contains 'b'⟩
    match cs.drop letters.length with
    | c :: rest =>
      if c ≠ '\'' ∧ c ≠ '"' then none
      else
        let read := match rest with
          | d :: e :: more =>
            if d = c ∧ e = c then afterQuotes (quoting c true) more
            else afterQuotes (quoting c false) rest
          | _ => afterQuotes (quoting c false) rest
        read.map fun rest => (marks.contains 'b', rest)
    | [] => none

/-- Quoted texts side by side are one. -/
def texts? (inBrackets : Bool) : Nat → List Char → Option (Bool × List Char)
  | 0, _ => none
  | fuel + 1, cs => do
    let (bytes, rest) ← quoted? cs
    match texts? inBrackets fuel (skipBlanks inBrackets false rest) with
    | some (more, rest) => if more = bytes then return (bytes, rest) else none
    | none => return (bytes, rest)

def words : List String := ["True", "False", "None"]

def word? (cs : List Char) : Option (Kind × List Char) :=
  let word := cs.takeWhile Text.isWord
  let rest := cs.dropWhile Text.isWord
  if String.ofList word ∈ words then some (.atom, rest)
  else if String.ofList word = "set" then
    match skipBlanks false false rest with
    | '(' :: rest =>
      match skipBlanks true false rest with
      | ')' :: rest => some (.container, rest)
      | _ => none
    | _ => none
  else none

mutual

/-- A literal without a sign. Each takes at least one character. -/
def atom? : Nat → Bool → List Char → Option (Kind × List Char)
  | 0, _, _ => none
  | fuel + 1, inBrackets, cs =>
    match cs with
    | '(' :: rest => tuple? fuel ')' rest
    | '\x7b' :: rest => elements? fuel none rest
    | '.' :: '.' :: '.' :: rest => some (.atom, rest)
    | _ => number? cs <|> ((texts? inBrackets (fuel + 1) cs).map fun (_, rest) => (.atom, rest)) <|>
        word? cs

def sum? : Nat → Bool → List Char → Option (Kind × List Char)
  | 0, _, _ => none
  | fuel + 1, inBrackets, cs => do
    let isSign (c : Char) : Bool := c = '+' || c = '-'
    let cs := skipBlanks inBrackets false cs
    let (kind, rest) ←
      if (cs.head?.map isSign).getD false then
        match ← atom? fuel inBrackets (skipBlanks inBrackets false (cs.drop 1)) with
        | (.real, rest) => some (.signedReal, rest)
        | (.imaginary, rest) => some (.atom, rest)
        | _ => none
      else atom? fuel inBrackets cs
    let rest := skipBlanks inBrackets false rest
    if (rest.head?.map isSign).getD false then
      match kind, ← atom? fuel inBrackets (skipBlanks inBrackets false (rest.drop 1)) with
      | .real, (.imaginary, rest) | .signedReal, (.imaginary, rest) =>
        return (.atom, skipBlanks inBrackets false rest)
      | _, _ => none
    else return (kind, rest)

def tuple? : Nat → Char → List Char → Option (Kind × List Char)
  | 0, _, _ => none
  | fuel + 1, closing, cs => do
    match skipBlanks true false cs with
    | c :: rest =>
      if c = closing then return (.atom, rest)
      let (kind, rest) ← sum? fuel true (c :: rest)
      match rest with
      | ',' :: rest =>
        let (others, rest) ← tuple? fuel closing rest
        return (if kind.isKey && others.isKey then .atom else .container, rest)
      | d :: rest => if d = closing then return (kind, rest) else none
      | [] => none
    | [] => none

def elements? : Nat → Option Bool → List Char → Option (Kind × List Char)
  | 0, _, _ => none
  | fuel + 1, pairs, cs => do
    match skipBlanks true false cs with
    | '\x7d' :: rest => return (.container, rest)
    | cs =>
      let (key, rest) ← sum? fuel true cs
      if !key.isKey then none
      let (isPair, rest) ← match rest with
        | ':' :: rest => (sum? fuel true rest).map fun (_, rest) => (true, rest)
        | rest => some (false, rest)
      if pairs = some (!isPair) then none
      match rest with
      | ',' :: rest => elements? fuel (some isPair) rest
      | '\x7d' :: rest => return (.container, rest)
      | _ => none

end

def isRow : Nat → List Char → Bool
  | 0, _ => false
  | fuel + 1, cs =>
    match sum? (3 * cs.length + 3) false cs with
    | some (_, ',' :: rest) =>
      (skipBlanks false false rest).isEmpty || isRow fuel rest
    | some (_, rest) => (skipBlanks true false rest).isEmpty
    | none => false

def isLiteral (s : List Char) : Bool := isRow (s.length + 1) s

end StructureDerive.Literal
