import StructureDerive.Format.Yaml.Text

/-! # Tokens of a YAML document

Blocks are marked by indentation in the text and by opening and closing tokens here. A key is known
as such only at its colon, so the place in front of every possible key is remembered until then.
-/
namespace StructureDerive.Yaml

inductive Token where
  | plain (text : String)
  | quoted (text : String)
  | key
  | value
  | entry
  | openSequence
  | openMapping
  | closeBlock
  | openFlowSequence
  | closeFlowSequence
  | openFlowMapping
  | closeFlowMapping
  | comma
  | startDocument
  | endDocument
deriving DecidableEq, Repr

/-- Where a key may have begun: the number of tokens before it, and its place. A required key has
to be followed by its colon. -/
structure PossibleKey where
  position : Nat
  required : Bool
  line : Nat
  column : Nat
  index : Nat

/-- `tokens` are kept last one first. `keys` has one item for each open flow collection and one for
the blocks around them, and `indents` one for each open block. -/
structure Scan where
  rest : List Place
  indents : List Int := [-1]
  keys : List (Option PossibleKey) := [none]
  keyAllowed : Bool := true
  tokens : List Token := []
  count : Nat := 0

namespace Scan

def inFlow (s : Scan) : Bool := 1 < s.keys.length

def indent (s : Scan) : Int := s.indents.headD (-1)

def here (s : Scan) : Place := s.rest.headD ⟨endChar, 0, 0, 0⟩

def push (s : Scan) (t : Token) : Scan := { s with tokens := t :: s.tokens, count := s.count + 1 }

def skip (s : Scan) (n : Nat) : Scan := { s with rest := s.rest.drop n }

def insertAt (s : Scan) (position : Nat) (t : Token) : Scan :=
  let after := s.count - position
  { s with tokens := s.tokens.take after ++ t :: s.tokens.drop after, count := s.count + 1 }

/-- Drops blanks, comments and line ends. After a line end of a block a key may begin. -/
def skipGaps (inFlow : Bool) : Bool → Bool → List Place → Bool × List Place
  | _, keyAllowed, [] => (keyAllowed, [])
  | inComment, keyAllowed, p :: rest =>
    if isBreak p.char then skipGaps inFlow false (keyAllowed || !inFlow) rest
    else if p.char ≠ endChar ∧ (inComment ∨ p.char = '#') then skipGaps inFlow true keyAllowed rest
    else if p.char = ' ' then skipGaps inFlow false keyAllowed rest
    else (keyAllowed, p :: rest)

def toNextToken (s : Scan) : Scan :=
  let (keyAllowed, rest) := skipGaps s.inFlow false s.keyAllowed s.rest
  { s with keyAllowed, rest }

def keyLimit : Nat := 1024

/-- Gives up keys that are too far back or on another line. -/
def dropStaleKeys (s : Scan) : Option Scan := do
  let stillPossible : Option PossibleKey → Option (Option PossibleKey)
    | none => some none
    | some k =>
      if k.line ≠ s.here.line ∨ keyLimit < s.here.index - k.index then
        if k.required then none else some none
      else some (some k)
  return { s with keys := ← s.keys.mapM stillPossible }

def forgetKey (s : Scan) : Option Scan :=
  match s.keys with
  | some k :: outer => if k.required then none else some { s with keys := none :: outer }
  | _ => some s

def rememberKey (s : Scan) : Option Scan :=
  if s.keyAllowed then do
    let s ← s.forgetKey
    let required := !s.inFlow && s.indent = s.here.column
    let k : PossibleKey := ⟨s.count, required, s.here.line, s.here.column, s.here.index⟩
    return { s with keys := some k :: s.keys.drop 1 }
  else some s

def closeBlocks (column : Int) : List Int → List Int × Nat
  | indent :: outer =>
    if column < indent then
      let (indents, closed) := closeBlocks column outer
      (indents, closed + 1)
    else (indent :: outer, 0)
  | [] => ([], 0)

def unindent (s : Scan) (column : Int) : Scan :=
  if s.inFlow then s
  else
    let (indents, closed) := closeBlocks column s.indents
    (List.range closed).foldl (fun s _ => s.push .closeBlock) { s with indents }

/-- Opens a block at a column that is deeper than the blocks so far. The token goes in front of
those from a position on. -/
def indentTo (s : Scan) (column position : Nat) (t : Token) : Scan :=
  if s.indent < column then { s.insertAt position t with indents := (column : Int) :: s.indents }
  else s

def documentMarker (s : Scan) (t : Token) : Option Scan := do
  let s ← (s.unindent (-1)).forgetKey
  return { (s.skip 3).push t with keyAllowed := false }

def openFlow (s : Scan) (t : Token) : Option Scan := do
  let s ← s.rememberKey
  return { (s.skip 1).push t with keys := none :: s.keys, keyAllowed := true }

/-- A bracket that closes nothing leaves the blocks as they are; the token is refused later. -/
def closeFlow (s : Scan) (t : Token) : Option Scan := do
  let s ← s.forgetKey
  let keys := if s.inFlow then s.keys.drop 1 else s.keys
  return { (s.skip 1).push t with keys, keyAllowed := false }

def comma (s : Scan) : Option Scan := do
  let s ← s.forgetKey
  return { (s.skip 1).push .comma with keyAllowed := true }

def blockMark (s : Scan) (opening t : Token) (keyAllowed : Bool) : Option Scan := do
  if !s.inFlow && !s.keyAllowed then none
  let s := if s.inFlow then s else s.indentTo s.here.column s.count opening
  let s ← s.forgetKey
  return { (s.skip 1).push t with keyAllowed }

/-- A colon makes what stands before it a key, if a key was possible there. -/
def colon (s : Scan) : Option Scan :=
  match s.keys with
  | some k :: outer =>
    let s := { s with keys := none :: outer }.insertAt k.position .key
    let s := if s.inFlow then s else s.indentTo k.column k.position .openMapping
    some { (s.skip 1).push .value with keyAllowed := false }
  | _ => s.blockMark .openMapping .value (!s.inFlow)

def plainText (s : Scan) : Option Scan := do
  let s ← s.rememberKey
  let (text, newLine, rest) := plainFrom s.inFlow s.indent s.rest.length [] false s.rest
  return { s.push (.plain (String.ofList text)) with rest, keyAllowed := newLine }

def quotedText (s : Scan) (double : Bool) : Option Scan := do
  let s ← s.rememberKey
  let (text, rest) ← quotedFrom double s.rest.length (s.rest.drop 1)
  return { s.push (.quoted (String.ofList text)) with rest, keyAllowed := false }

def isIndicator (c : Char) : Bool := "-?:,[]\x7b\x7d#&*!|>'\"%@`".toList.contains c

def startsPlain (s : Scan) : Bool :=
  let c := s.here.char
  (!isGap c && !isIndicator c) ||
    (!isGap (charAt s.rest 1) && (c = '-' || (!s.inFlow && (c = '?' || c = ':'))))

def token (s : Scan) : Option Scan :=
  let c := s.here.char
  let before (next : Char) : Bool := s.inFlow || isGap next
  let next := charAt s.rest 1
  if s.here.column = 0 && isMarker s.rest then
    s.documentMarker (if c = '-' then .startDocument else .endDocument)
  else if c = '[' then s.openFlow .openFlowSequence
  else if c = '\x7b' then s.openFlow .openFlowMapping
  else if c = ']' then s.closeFlow .closeFlowSequence
  else if c = '\x7d' then s.closeFlow .closeFlowMapping
  else if c = ',' then s.comma
  else if c = '-' && isGap next then s.blockMark .openSequence .entry true
  else if c = '?' && before next then s.blockMark .openMapping .key (!s.inFlow)
  else if c = ':' && before next then s.colon
  else if c = '\'' then s.quotedText false
  else if c = '"' then s.quotedText true
  else if s.startsPlain then s.plainText
  else none

/-- All tokens up to the end. Each one takes at least one character. -/
def run : Nat → Scan → Option (List Token)
  | 0, _ => none
  | fuel + 1, s => do
    let s ← s.toNextToken.dropStaleKeys
    if s.here.char = endChar then
      let s ← (s.unindent (-1)).forgetKey
      return s.tokens.reverse
    else run fuel (← (s.unindent s.here.column).token)

end Scan

def dropByteOrderMark : List Place → List Place
  | p :: rest => if p.char = '\uFEFF' then rest else p :: rest
  | [] => []

def Token.scan (cs : List Char) : Option (List Token) :=
  if cs.all isAllowed then
    let places := placesFrom 0 0 0 cs
    Scan.run (places.length + 1) { rest := dropByteOrderMark places }
  else none

end StructureDerive.Yaml
