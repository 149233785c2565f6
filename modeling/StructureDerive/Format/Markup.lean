import StructureDerive.Format.Emoji
import StructureDerive.Format.Literal
import StructureDerive.Format.Style
import StructureDerive.Text.Wrapping

/-! # Texts on a console

Style tags in square brackets, such as `[bold]` and `[/bold]`, vanish when a text is shown without
colour. A backslash in front of a tag makes it plain text. Codes of emoji turn into their pictures.
-/
namespace StructureDerive.Markup

inductive Piece where
  | plain (text : List Char)
  | tag (content : List Char)
deriving DecidableEq

def isTagStart (c : Char) : Bool := c.isLower || c = '#' || c = '/' || c = '@'

def tagContent? : List Char → Option (List Char × List Char)
  | c :: rest =>
    let inner := rest.takeWhile fun d => d ≠ '[' && d ≠ ']'
    match isTagStart c, rest.drop inner.length with
    | true, ']' :: after => some (c :: inner, after)
    | _, _ => none
  | [] => none

structure Found where
  backslashes : Nat
  content : List Char
  rest : List Char

def tagAt? (cs : List Char) : Option Found :=
  let backslashes := (cs.takeWhile (· = '\\')).length
  match cs.drop backslashes with
  | '[' :: rest => (tagContent? rest).map fun (content, rest) => ⟨backslashes, content, rest⟩
  | _ => none

def bracketed (content : List Char) : List Char := '[' :: content ++ [']']

/-- Two backslashes before a tag are one; a single one left over takes the tag its meaning. -/
def Found.pieces (f : Found) : List Piece :=
  let half := List.replicate (f.backslashes / 2) '\\'
  (if half.isEmpty then [] else [.plain half]) ++
    [if f.backslashes % 2 = 1 then .plain (bracketed f.content) else .tag f.content]

def addPlain (c : Char) : List Piece → List Piece
  | .plain text :: rest => .plain (c :: text) :: rest
  | pieces => .plain [c] :: pieces

/-- The pieces of a text. Every piece takes at least one character. -/
def piecesFrom : Nat → List Char → List Piece
  | 0, _ | _, [] => []
  | fuel + 1, c :: rest =>
    match tagAt? (c :: rest) with
    | some found => .plain [] :: found.pieces ++ .plain [] :: piecesFrom fuel found.rest
    | none => addPlain c (piecesFrom fuel rest)

/-- A backslash before a bracket that opens no tag is dropped. -/
def dropBackslashes : List Char → List Char
  | '\\' :: '[' :: rest => '[' :: dropBackslashes rest
  | c :: rest => c :: dropBackslashes rest
  | [] => []

structure OpenTag where
  name : String
  parameters : List Char := []
deriving DecidableEq, Repr

def nameOf (content : List Char) : List Char := content.takeWhile (· ≠ '=')

def OpenTag.of (content : List Char) : Except Fault OpenTag := do
  let name ← Style.canonical (nameOf content)
  return { name, parameters := (content.dropWhile (· ≠ '=')).drop 1 }

/-- The arguments in the parameters of an event tag, which may stand behind the name of an event. -/
def eventArguments (parameters : List Char) : List Char :=
  let cs := Text.trim parameters
  let rest := cs.dropWhile fun c => Text.isWord c || c = '.'
  match rest with
  | [] => "()".toList
  | '(' :: inner => if inner.getLast? = some ')' && !inner.contains '\n' then rest else cs
  | _ => cs

def OpenTag.close (t : OpenTag) : Except Fault Unit :=
  if "@".toList.isPrefixOf t.name.toList && !t.parameters.isEmpty &&
      !Literal.isLiteral (eventArguments t.parameters) then
    .error .malformedParameters
  else .ok ()

/-- The open tags after a tag, last one first. A closing tag without a name closes the last. -/
def applyTag (tags : List OpenTag) (content : List Char) : Except Fault (List OpenTag) :=
  match content with
  | '/' :: rest => do
    let name := nameOf rest
    let closed? ←
      if (Text.trim name).isEmpty then pure tags.head?
      else do
        let name ← Style.canonical name
        pure (tags.find? (·.name = name))
    match closed? with
    | some closed =>
      closed.close
      return tags.eraseP (·.name = closed.name)
    | none => throw .unmatchedTag
  | _ => return (← OpenTag.of content) :: tags

def plainText (tags : List OpenTag) : List Piece → Except Fault (List Char)
  | [] => .ok []
  | .plain text :: rest =>
    return Emoji.replace (dropBackslashes text) ++ (← plainText tags rest)
  | .tag content :: rest => do plainText (← applyTag tags content) rest

def strip (s : String) : Except Fault String :=
  return String.ofList (← plainText [] (piecesFrom s.toList.length s.toList))

def escapeFrom : Nat → List Char → List Char
  | 0, _ | _, [] => []
  | fuel + 1, c :: rest =>
    match tagAt? (c :: rest) with
    | some found =>
      List.replicate (2 * found.backslashes + 1) '\\' ++ bracketed found.content ++
        escapeFrom fuel found.rest
    | none => c :: escapeFrom fuel rest

/-- A lone backslash at the end is doubled, lest it escape what follows. -/
def escape (s : String) : String :=
  let escaped := escapeFrom s.toList.length s.toList
  let lone := match escaped.reverse with
    | '\\' :: '\\' :: _ => false
    | '\\' :: _ => true
    | _ => false
  String.ofList (if lone then escaped ++ ['\\'] else escaped)

def isDropped (c : Char) : Bool :=
  c = '\x07' || c = '\x08' || c = '\x0b' || c = '\x0c' || c = '\r'

def dropControls (s : String) : String := String.ofList (s.toList.filter (!isDropped ·))

def joinLines (lines : List (List Char)) : String := String.ofList (['\n'].intercalate lines)

/-- A text without tags as it appears on the console: long lines are broken. -/
def shown (s : String) : String :=
  joinLines <| (Text.wrappedLines Text.consoleWidth true (dropControls s).toList).map
    (Text.fitted Text.consoleWidth)

def shownUnbroken (s : String) : String :=
  joinLines (Text.croppedLines Text.consoleWidth (dropControls s).toList)

end StructureDerive.Markup
