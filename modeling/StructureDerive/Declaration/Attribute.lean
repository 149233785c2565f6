import StructureDerive.Cause
import StructureDerive.Text.Blank
import StructureDerive.Text.Word

/-! # Trait entries in compact text

`Trait(Operator, ...)`, `Trait` alone, `Where = "clause"`, and `Trait = "Operator"` for a single
operator. A clause reaches from the first quote to the last one.
-/
namespace StructureDerive

/-- A key with its argument, before either is checked. -/
structure TraitEntry where
  key : String
  argument : Value

def whereKey : String := "Where"

namespace TraitEntry

/-- Splits the key off: an identifier after blanks, and what follows it and further blanks. -/
def keyAndRest? (cs : List Char) : Option (List Char × List Char) :=
  match Text.trimLeft cs with
  | [] => none
  | c :: rest =>
    if Text.isIdentifierStart c then
      some (c :: rest.takeWhile Text.isIdentifierRest,
        Text.trimLeft (rest.dropWhile Text.isIdentifierRest))
    else none

/-- What stands between an opening character and a closing one at the end, blanks aside. -/
def between? (opening closing : Char) : List Char → Option (List Char)
  | c :: rest =>
    if c = opening ∧ (Text.trimRight rest).getLast? = some closing then
      some (Text.trimRight rest).dropLast
    else none
  | [] => none

/-- The quoted value of `Key = "value"`. -/
def assigned? : List Char → Option (List Char)
  | '=' :: rest => between? '"' '"' (Text.trimLeft rest)
  | _ => none

def ofAssigned (key value : String) : TraitEntry :=
  if key = whereKey then ⟨key, .text value⟩
  else ⟨key, .list ((Text.nonBlank? value).toList.map .text)⟩

def operatorTexts (inner : List Char) : List String :=
  ((inner.splitOn ',').map Text.trim |>.filter (!·.isEmpty)).map String.ofList

/-- Reads what follows the key when it is no assignment. -/
def ofCall (text key : String) (rest : List Char) : Except Cause TraitEntry :=
  let inner? := if rest.isEmpty then some none else (between? '(' ')' rest).map some
  match inner? with
  | none => .error (.declaration (.unreadableAttribute text))
  | some inner =>
    if key = whereKey then
      .error (.malformedWhere ((inner.map fun cs => .text (String.ofList cs)).getD .null))
    else .ok ⟨key, .list ((operatorTexts (inner.getD [])).map .text)⟩

def parse (text : String) : Except Cause TraitEntry :=
  match keyAndRest? text.toList with
  | none => .error (.declaration (.unreadableAttribute text))
  | some (key, rest) =>
    match assigned? rest with
    | some value => .ok (ofAssigned (String.ofList key) (String.ofList value))
    | none => ofCall text (String.ofList key) rest

end TraitEntry
end StructureDerive
