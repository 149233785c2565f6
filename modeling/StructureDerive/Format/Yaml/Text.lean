import StructureDerive.Format.Yaml.Place
import StructureDerive.Number.Numeral
import StructureDerive.Text.Surrogate

/-! # Scalars in the text of a document

Plain and quoted scalars, over several lines if need be. A single line break inside a scalar is
read as a space; of several, the first is dropped.
-/
namespace StructureDerive.Yaml

def keptBreak (c : Char) : Char := if c = '\x85' then '\n' else c

def foldedBreaks (first : Char) (more : List Char) : List Char :=
  (if keptBreak first ≠ '\n' then [keptBreak first] else if more.isEmpty then [' '] else []) ++ more

def endsPlain (inFlow : Bool) (c next : Char) : Bool :=
  isGap c || (c = ':' && (isGap next || (inFlow && ",[]\x7b\x7d".toList.contains next))) ||
    (inFlow && ",?[]\x7b\x7d".toList.contains c)

def plainRun (inFlow : Bool) : List Place → List Char × List Place
  | [] => ([], [])
  | p :: rest =>
    if endsPlain inFlow p.char (charAt rest 0) then ([], p :: rest)
    else
      let (text, rest) := plainRun inFlow rest
      (p.char :: text, rest)

/-- Line ends with the spaces around them, and whether a document marker ends the scalar. -/
def plainBreaks : Bool → List Place → List Char × Bool × List Place
  | _, [] => ([], false, [])
  | atStart, p :: rest =>
    if atStart && isMarker (p :: rest) then ([], true, p :: rest)
    else if p.char = ' ' then plainBreaks false rest
    else if isBreak p.char then
      let (breaks, marker, rest) := plainBreaks true rest
      (keptBreak p.char :: breaks, marker, rest)
    else ([], false, p :: rest)

structure PlainGap where
  text : List Char
  newLine : Bool
  rest : List Place

def plainGap (places : List Place) : PlainGap :=
  let spaces := places.takeWhile (·.char = ' ')
  match places.dropWhile (·.char = ' ') with
  | p :: rest =>
    if isBreak p.char then
      let (breaks, marker, rest) := plainBreaks true rest
      ⟨if marker then [] else foldedBreaks p.char breaks, true, rest⟩
    else ⟨spaces.map (·.char), false, p :: rest⟩
  | [] => ⟨[], false, []⟩

/-- A plain scalar from its first run on, with the gap before that run. Lines that continue it stand
deeper than the block around it. -/
def plainFrom (inFlow : Bool) (indent : Int) :
    Nat → List Char → Bool → List Place → List Char × Bool × List Place
  | 0, _, newLine, places => ([], newLine, places)
  | fuel + 1, gap, newLine, places =>
    match plainRun inFlow places with
    | ([], _) => ([], newLine, places)
    | (run, rest) =>
      let next := plainGap rest
      let column := (next.rest.head?.map (·.column)).getD 0
      if next.text.isEmpty || charAt next.rest 0 = '#' || (!inFlow && (column : Int) ≤ indent) then
        (gap ++ run, next.newLine, next.rest)
      else
        let (more, newLine, rest) := plainFrom inFlow indent fuel next.text next.newLine next.rest
        (gap ++ run ++ more, newLine, rest)

/-- The line ends inside quotes, with the blanks around them. No document marker stands there. -/
def quotedBreaks : Bool → List Place → Option (List Char × List Place)
  | _, [] => none
  | atStart, p :: rest =>
    if atStart && isMarker (p :: rest) then none
    else if p.char = ' ' || p.char = '\t' then quotedBreaks false rest
    else if isBreak p.char then
      (quotedBreaks true rest).map fun (breaks, rest) => (keptBreak p.char :: breaks, rest)
    else some ([], p :: rest)

def quotedGap (places : List Place) : Option (List Char × List Place) :=
  let isSpace (p : Place) : Bool := p.char = ' ' || p.char = '\t'
  match places.dropWhile isSpace with
  | p :: rest =>
    if isBreak p.char then
      (quotedBreaks true rest).map fun (breaks, rest) => (foldedBreaks p.char breaks, rest)
    else some ((places.takeWhile isSpace).map (·.char), p :: rest)
  | [] => none

def escaped? : Char → Option Char
  | '0' => some '\x00'
  | 'a' => some '\x07'
  | 'b' => some '\x08'
  | 't' | '\t' => some '\t'
  | 'n' => some '\n'
  | 'v' => some '\x0b'
  | 'f' => some '\x0c'
  | 'r' => some '\r'
  | 'e' => some '\x1b'
  | ' ' => some ' '
  | '"' => some '"'
  | '\\' => some '\\'
  | '/' => some '/'
  | 'N' => some '\x85'
  | '_' => some '\xa0'
  | 'L' => some '\u2028'
  | 'P' => some '\u2029'
  | _ => none

def codeDigits? : Char → Option Nat
  | 'x' => some 2
  | 'u' => some 4
  | 'U' => some 8
  | _ => none

/-- An escape after its backslash. A line end is dropped with the blanks that follow it. -/
def escape (places : List Place) : Option (List Char × List Place) :=
  match places with
  | [] => none
  | p :: rest =>
    match codeDigits? p.char with
    | some width => do
      let n ← Numeral.ofDigits? 16 ((rest.take width).map (·.char))
      return ([← Text.ofCode? n], rest.drop width)
    | none =>
      match escaped? p.char with
      | some c => some ([c], rest)
      | none => if isBreak p.char then quotedBreaks true rest else none

def quotedFrom (double : Bool) : Nat → List Place → Option (List Char × List Place)
  | 0, _ | _, [] => none
  | fuel + 1, p :: rest =>
    let continued (read : Option (List Char × List Place)) : Option (List Char × List Place) := do
      let (text, rest) ← read
      let (more, rest) ← quotedFrom double fuel rest
      return (text ++ more, rest)
    if p.char = endChar then none
    else if p.char = ' ' || p.char = '\t' || isBreak p.char then continued (quotedGap (p :: rest))
    else if double then
      if p.char = '"' then some ([], rest)
      else if p.char = '\\' then continued (escape rest)
      else continued (some ([p.char], rest))
    else if p.char = '\'' then
      if charAt rest 0 = '\'' then continued (some (['\''], rest.drop 1)) else some ([], rest)
    else continued (some ([p.char], rest))

end StructureDerive.Yaml
