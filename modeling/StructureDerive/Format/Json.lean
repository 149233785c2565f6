import StructureDerive.Text.Quoted

/-! # JSON texts

Values and their text with an indentation of two, in ASCII only: a character beyond the basic plane
is written as a pair of surrogates.
-/
namespace StructureDerive

inductive Json where
  | null
  | bool (b : Bool)
  | int (n : Int)
  | text (s : String)
  | list (items : List Json)
  | object (fields : List (String × Json))

namespace Json
variable [Host]

def unit16 (n : Nat) : List Char := '\\' :: 'u' :: Text.hexDigits 4 n

def escapeChar (c : Char) : List Char :=
  if c = '"' ∨ c = '\\' then ['\\', c]
  else if c = '\n' then ['\\', 'n']
  else if c = '\r' then ['\\', 'r']
  else if c = '\t' then ['\\', 't']
  else if c = '\x08' then ['\\', 'b']
  else if c = '\x0c' then ['\\', 'f']
  else
    let n := Text.codeOf c
    if 32 ≤ n ∧ n < 127 then [c]
    else if n < 0x10000 then unit16 n
    else unit16 (0xD800 + (n - 0x10000) / 0x400) ++ unit16 (0xDC00 + (n - 0x10000) % 0x400)

def quoted (s : String) : String :=
  String.ofList ('"' :: s.toList.flatMap escapeChar ++ ['"'])

def newLine (depth : Nat) : String := String.ofList ('\n' :: List.replicate (2 * depth) ' ')

/-- Items one below the other between brackets; an empty bracket stays on its line. -/
def block (opening closing : String) (depth : Nat) (items : List String) : String :=
  if items.isEmpty then opening ++ closing
  else opening ++ newLine (depth + 1) ++ ("," ++ newLine (depth + 1)).intercalate items ++
    newLine depth ++ closing

mutual

def textAt (depth : Nat) : Json → String
  | null => "null"
  | bool b => if b then "true" else "false"
  | int n => toString n
  | text s => quoted s
  | list items => block "[" "]" depth (itemTexts (depth + 1) items)
  | object fields => block "\x7b" "\x7d" depth (fieldTexts (depth + 1) fields)

def itemTexts (depth : Nat) : List Json → List String
  | [] => []
  | v :: rest => v.textAt depth :: itemTexts depth rest

def fieldTexts (depth : Nat) : List (String × Json) → List String
  | [] => []
  | (k, v) :: rest => (quoted k ++ ": " ++ v.textAt depth) :: fieldTexts depth rest

end

def render (v : Json) : String := v.textAt 0

/-- Writes fields over those that are there; a name that is there keeps its place. -/
def assign (fields : List (String × Json)) (name : String) (value : Json) :
    List (String × Json) :=
  match fields with
  | [] => [(name, value)]
  | (k, v) :: rest => if k = name then (k, value) :: rest else (k, v) :: assign rest name value

def texts (items : List String) : Json := .list (items.map .text)

def optional (s : Option String) : Json := (s.map Json.text).getD .null

end Json
end StructureDerive
