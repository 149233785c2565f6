import StructureDerive.Cause
import StructureDerive.Text.Nested
import StructureDerive.Text.Path

/-! # Generic parameters

Parameter lists are read from a text such as `<'a, T: Clone + 'a, const N: usize>`, with or without
the outer brackets, or from a list with one text for each parameter.
-/
namespace StructureDerive
variable [Host]

inductive ParameterKind where
  | lifetime
  | type
  | const
deriving DecidableEq, Repr

/-- `bounds` are the bounds of a lifetime or type, and the type of a const. -/
structure Parameter where
  kind : ParameterKind
  name : String
  bounds : Option String := none
deriving DecidableEq, Repr

namespace Parameter

def declaration (p : Parameter) : String :=
  match p.kind, p.bounds with
  | .const, some type => s!"const {p.name}: {type}"
  | _, some bounds => s!"{p.name}: {bounds}"
  | _, none => p.name

/-- Whether a concrete type has to be supplied for the parameter. -/
def isInstantiable (p : Parameter) : Bool := p.kind ≠ .lifetime

def nameAndBounds (cs : List Char) : List Char × List Char :=
  (Text.trim (cs.takeWhile (· ≠ ':')), Text.trim ((cs.dropWhile (· ≠ ':')).drop 1))

def constWord : List Char := "const ".toList

def nonEmpty? (cs : List Char) : Option String :=
  if cs.isEmpty then none else some (String.ofList cs)

/-- Reads one stripped parameter. The name of a const is taken as it is. -/
def parse (text : String) : Except Cause Parameter :=
  let cs := text.toList
  if constWord.isPrefixOf cs then
    let (name, type) := nameAndBounds (cs.drop constWord.length)
    if type.isEmpty then .error (.declaration (.constWithoutType text))
    else .ok ⟨.const, String.ofList name, some (String.ofList type)⟩
  else
    let (name, bounds) := nameAndBounds cs
    if Text.isLifetime name then .ok ⟨.lifetime, String.ofList name, nonEmpty? bounds⟩
    else if Text.isIdentifier name then .ok ⟨.type, String.ofList name, nonEmpty? bounds⟩
    else .error (.declaration (.unreadableGeneric text))

def ofValue (given : Value) : Except Cause Parameter :=
  match given.text?.bind Text.nonBlank? with
  | some text => parse text
  | none => .error (.declaration (.blankGeneric given))

def ofValues (given : List Value) : Except Cause (List Parameter) := given.mapM ofValue

end Parameter

structure Generics where
  parameters : List Parameter := []
deriving DecidableEq, Repr

namespace Generics

def bracketed (g : Generics) (items : List String) : String :=
  if g.parameters.isEmpty then "" else s!"<{commaList items}>"

def declared (g : Generics) : String := g.bracketed (g.parameters.map (·.declaration))

def named (g : Generics) : String := g.bracketed (g.parameters.map (·.name))

def instantiable (g : Generics) : List Parameter := g.parameters.filter (·.isInstantiable)

/-- Fills the parameters in order: lifetimes by `'static`, the others by the next argument. -/
def fill : List Parameter → List String → Except Fault (List String)
  | [], _ => .ok []
  | p :: rest, arguments =>
    if p.kind = .lifetime then return "'static" :: (← fill rest arguments)
    else
      match arguments with
      | [] => .error .tooFewArguments
      | argument :: more => return argument :: (← fill rest more)

def instantiate (g : Generics) (arguments : List String) : Except Fault String :=
  return g.bracketed (← fill g.parameters arguments)

def unwrapped (cs : List Char) : List Char :=
  match cs with
  | '<' :: rest => if rest.getLast? = some '>' then rest.dropLast else cs
  | _ => cs

def parameterTexts (s : String) : List String :=
  (Text.topLevelPieces (unwrapped (Text.trim s.toList))).map String.ofList

/-- What a raw value lists: nothing, the pieces of a text, items, or the keys of a table. -/
def parameterValues : Value → Except Fault (List Value)
  | .null => .ok []
  | .text s => .ok ((parameterTexts s).map .text)
  | other => other.elements

def parse (raw : Value) : Except Failure Generics := do
  let parameters ← Parameter.ofValues (← parameterValues raw)
  return { parameters }

end Generics
end StructureDerive
