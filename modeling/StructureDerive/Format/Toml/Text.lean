import StructureDerive.Number.Numeral

/-! # Texts and keys in TOML

The four kinds of quoted texts, and dotted keys. Every reader returns what it read and the rest.
-/
namespace StructureDerive.Toml

/-- Control characters other than the tab. They stand in no text and in no comment. -/
def isControl (c : Char) : Bool := (c.toNat < 32 && c ≠ '\t') || c.toNat = 127

def isSpace (c : Char) : Bool := c = ' ' || c = '\t'

def isSpaceOrBreak (c : Char) : Bool := isSpace c || c = '\n'

def skipSpaces (cs : List Char) : List Char := cs.dropWhile isSpace

def escaped? : Char → Option Char
  | 'b' => some '\x08'
  | 't' => some '\t'
  | 'n' => some '\n'
  | 'f' => some '\x0c'
  | 'r' => some '\r'
  | '"' => some '"'
  | '\\' => some '\\'
  | _ => none

def scalar? (digits : List Char) : Option Char := do
  let n ← Numeral.ofDigits? 16 digits
  if n.isValidChar then some (Char.ofNat n) else none

def cons? (c : Option Char) (read : Option (List Char × List Char)) :
    Option (List Char × List Char) := do
  let (text, rest) ← read
  return ((← c) :: text, rest)

def basicText : List Char → Option (List Char × List Char)
  | [] => none
  | '"' :: rest => some ([], rest)
  | '\\' :: 'u' :: a :: b :: c :: d :: rest => cons? (scalar? [a, b, c, d]) (basicText rest)
  | '\\' :: 'U' :: a :: b :: c :: d :: e :: f :: g :: h :: rest =>
    cons? (scalar? [a, b, c, d, e, f, g, h]) (basicText rest)
  | '\\' :: c :: rest => cons? (escaped? c) (basicText rest)
  | c :: rest => if isControl c then none else cons? (some c) (basicText rest)

def literalText : List Char → Option (List Char × List Char)
  | [] => none
  | '\'' :: rest => some ([], rest)
  | c :: rest => if isControl c then none else cons? (some c) (literalText rest)

/-- Where a text on several lines stands: in its characters, between a backslash and the line end
that it takes away, or in the blanks after that line end. -/
inductive LineState where
  | characters
  | beforeBreak
  | afterBreak
deriving DecidableEq

/-- A text with escapes on several lines, up to three quotes. One or two more belong to it. -/
def basicLines : LineState → List Char → Option (List Char × List Char)
  | _, [] => none
  | state, c :: rest =>
    if state = .beforeBreak then
      if c = '\n' then basicLines .afterBreak rest
      else if isSpace c then basicLines .beforeBreak rest
      else none
    else if state = .afterBreak ∧ isSpaceOrBreak c then basicLines .afterBreak rest
    else
      match c, rest with
      | '"', '"' :: '"' :: '"' :: '"' :: rest => some (['"', '"'], rest)
      | '"', '"' :: '"' :: '"' :: rest => some (['"'], rest)
      | '"', '"' :: '"' :: rest => some ([], rest)
      | '\\', 'u' :: a :: b :: c :: d :: rest =>
        cons? (scalar? [a, b, c, d]) (basicLines .characters rest)
      | '\\', 'U' :: a :: b :: c :: d :: e :: f :: g :: h :: rest =>
        cons? (scalar? [a, b, c, d, e, f, g, h]) (basicLines .characters rest)
      | '\\', '\n' :: rest => basicLines .afterBreak rest
      | '\\', ' ' :: rest => basicLines .beforeBreak rest
      | '\\', '\t' :: rest => basicLines .beforeBreak rest
      | '\\', c :: rest => cons? (escaped? c) (basicLines .characters rest)
      | c, rest =>
        if isControl c ∧ c ≠ '\n' then none else cons? (some c) (basicLines .characters rest)

def literalLines : List Char → Option (List Char × List Char)
  | [] => none
  | '\'' :: '\'' :: '\'' :: '\'' :: '\'' :: rest => some (['\'', '\''], rest)
  | '\'' :: '\'' :: '\'' :: '\'' :: rest => some (['\''], rest)
  | '\'' :: '\'' :: '\'' :: rest => some ([], rest)
  | c :: rest =>
    if isControl c ∧ c ≠ '\n' then none else cons? (some c) (literalLines rest)

/-- A line end right after the opening quotes does not count. -/
def dropFirstBreak : List Char → List Char
  | '\n' :: rest => rest
  | cs => cs

def text? : List Char → Option (String × List Char)
  | '"' :: '"' :: '"' :: rest => made (basicLines .characters (dropFirstBreak rest))
  | '\'' :: '\'' :: '\'' :: rest => made (literalLines (dropFirstBreak rest))
  | '"' :: rest => made (basicText rest)
  | '\'' :: rest => made (literalText rest)
  | _ => none
where
  made (read : Option (List Char × List Char)) : Option (String × List Char) :=
    read.map fun (text, rest) => (String.ofList text, rest)

def isBareKey (c : Char) : Bool := c.isAlphanum || c = '-' || c = '_'

def keyPart? : List Char → Option (String × List Char)
  | '"' :: rest => (basicText rest).map fun (text, rest) => (String.ofList text, rest)
  | '\'' :: rest => (literalText rest).map fun (text, rest) => (String.ofList text, rest)
  | cs =>
    let part := cs.takeWhile isBareKey
    if part.isEmpty then none else some (String.ofList part, cs.dropWhile isBareKey)

/-- A dotted key and the rest after further spaces. Each part takes at least one character. -/
def keyParts? : Nat → List Char → Option (List String × List Char)
  | 0, _ => none
  | fuel + 1, cs => do
    let (part, rest) ← keyPart? cs
    match skipSpaces rest with
    | '.' :: rest =>
      let (parts, rest) ← keyParts? fuel (skipSpaces rest)
      return (part :: parts, rest)
    | rest => return ([part], rest)

def key? (cs : List Char) : Option (List String × List Char) := keyParts? (cs.length + 1) cs

end StructureDerive.Toml
