import StructureDerive.Format.EmojiTable
import StructureDerive.Number.Numeral
import StructureDerive.Text.LowerCase

/-! # Emoji codes

A name between colons, such as `:smile:`, stands for a picture. The name may end in `-text` or
`-emoji`, which asks for one of the two ways to draw the picture.
-/
namespace StructureDerive.Emoji

def ofWord (word : List Char) : String × List Char :=
  let name := word.takeWhile (· ≠ '=')
  let codes := (word.drop (name.length + 1)).splitOn '-'
  (String.ofList name, codes.filterMap fun code => (Numeral.ofDigits? 16 code).map Char.ofNat)

def table : List (String × List Char) :=
  tableLines.flatMap fun line => (line.toList.splitOn ' ').map ofWord

/-- The ways to draw a picture, with the selectors that ask for them. -/
def variants : List (List Char × Char) :=
  [("-text".toList, '\uFE0E'), ("-emoji".toList, '\uFE0F')]

def splitVariant (code : List Char) : List Char × List Char :=
  match variants.find? fun v => v.1.isSuffixOf code with
  | some (ending, selector) => (code.take (code.length - ending.length), [selector])
  | none => (code, [])

def picture? (code : List Char) : Option (List Char) :=
  let (name, selector) := splitVariant code
  (table.lookup (Text.lower (String.ofList name))).map (· ++ selector)

/-- Puts pictures in place of their codes. The colons of an unknown name open no other code. -/
def replaceFrom : Nat → List Char → List Char
  | 0, cs => cs
  | _, [] => []
  | fuel + 1, c :: rest =>
    let code := rest.takeWhile fun d => d ≠ ':' && !Text.isBlank d
    match c, rest.drop code.length with
    | ':', ':' :: after =>
      (picture? code).getD (':' :: code ++ [':']) ++ replaceFrom fuel after
    | _, _ => c :: replaceFrom fuel rest

def replace (cs : List Char) : List Char := replaceFrom cs.length cs

end StructureDerive.Emoji
