import StructureDerive.Cause
import StructureDerive.Text.Similarity

/-! # Command line arguments

Options and positional arguments of a command. Options may stand anywhere among the arguments, a
short option may be followed directly by its value, and `--` ends the options.
-/
namespace StructureDerive
variable [Host]

/-- An option has its long name first. Switches take no value. -/
structure OptionForm where
  names : List String
  takesValue : Bool := false
deriving DecidableEq, Repr

/-- What a command takes: `positional` is shown in its usage line. -/
structure CommandForm where
  name : String
  options : List OptionForm := []
  usage : String
deriving DecidableEq, Repr

inductive UsageError where
  | unknownOption (name : String) (suggestions : List String)
  | missingValue (name : String)
  | unexpectedValue (name : String)
  | missingArgument (name : String)
  | unexpectedArguments (arguments : List String)
  | missingCommand
  | unknownCommand (name : String) (suggestions : List String)
  | noFile (subject path : String)
  | folder (subject path : String)
  | unreadable (subject path : String)
  | exclusive
deriving DecidableEq, Repr

def suggestionHint : List String → String
  | [] => ""
  | [name] => s!" Did you mean {Text.quoted name}?"
  | names => s!" (Did you mean one of: {commaList (names.map Text.quoted)}?)"

def UsageError.message : UsageError → String
  | unknownOption name suggestions =>
    s!"No such option {Text.quoted name}." ++ suggestionHint suggestions
  | missingValue name => s!"Option {Text.quoted name} requires an argument."
  | unexpectedValue name => s!"Option {Text.quoted name} does not take a value."
  | missingArgument name => s!"Missing argument '{name}'."
  | unexpectedArguments [argument] => s!"Got unexpected extra argument ({argument})"
  | unexpectedArguments arguments =>
    "Got unexpected extra arguments (" ++ " ".intercalate arguments ++ ")"
  | missingCommand => "Missing command."
  | unknownCommand name suggestions =>
    s!"No such command {Text.quoted name}." ++ suggestionHint suggestions
  | noFile subject path => s!"Invalid value for {subject}: File {Text.quoted path} does not exist."
  | folder subject path => s!"Invalid value for {subject}: File {Text.quoted path} is a directory."
  | unreadable subject path => s!"Invalid value for {subject}: File {Text.quoted path} is not readable."
  | exclusive => "--out and --in-place are mutually exclusive"

/-- Errors in the value of an option are shown without the usage of the command. -/
def UsageError.isShort : UsageError → Bool
  | missingValue _ | unexpectedValue _ => true
  | _ => false

/-- Options with their values in the order in which they are given, and the other arguments. A
switch stands under the name that was used, with an empty value. -/
structure Arguments where
  options : List (String × String) := []
  positional : List String := []
deriving DecidableEq, Repr

namespace Arguments

def formOf? (forms : List OptionForm) (name : String) : Option OptionForm :=
  forms.find? (·.names.contains name)

def longNames (forms : List OptionForm) : List String :=
  (forms.flatMap (·.names)).filter fun name => "--".toList.isPrefixOf name.toList

/-- Takes the value of an option from the arguments that follow it. -/
def takeValue (name : String) : List String → Except UsageError (String × List String)
  | value :: rest => .ok (value, rest)
  | [] => .error (.missingValue name)

def splitValue (argument : String) : String × Option String :=
  let cs := argument.toList
  let name := cs.takeWhile (· ≠ '=')
  if name.length = cs.length then (argument, none)
  else (String.ofList name, some (String.ofList (cs.drop (name.length + 1))))

def long (forms : List OptionForm) (argument : String) (rest : List String) :
    Except UsageError ((String × String) × List String) :=
  let (name, given) := splitValue argument
  match formOf? forms name, given with
  | none, _ => .error (.unknownOption name (Text.suggestions name (longNames forms)))
  | some form, given =>
    if form.takesValue then do
      let (value, rest) ← takeValue name (given.toList ++ rest)
      return ((name, value), rest)
    else if given.isSome then .error (.unexpectedValue name)
    else .ok ((name, ""), rest)

/-- The short options of an argument. One that takes a value takes what is left of it. -/
def short (forms : List OptionForm) :
    List Char → List String → Except UsageError (List (String × String) × List String)
  | [], rest => .ok ([], rest)
  | letter :: letters, rest =>
    let name := String.ofList ['-', letter]
    match formOf? forms name with
    | none => .error (.unknownOption name [])
    | some form =>
      if form.takesValue then do
        let attached := if letters.isEmpty then [] else [String.ofList letters]
        let (value, rest) ← takeValue name (attached ++ rest)
        return ([(name, value)], rest)
      else do
        let (more, rest) ← short forms letters rest
        return ((name, "") :: more, rest)

def isOption (argument : String) : Bool :=
  match argument.toList with
  | '-' :: _ :: _ => true
  | _ => false

def optionsOf (forms : List OptionForm) (argument : String) (rest : List String) :
    Except UsageError (List (String × String) × List String) := do
  if "--".toList.isPrefixOf argument.toList then
    let (found, rest) ← long forms argument rest
    return ([found], rest)
  else short forms (argument.toList.drop 1) rest

/-- Reads all arguments; without `interspersed`, only those before the first positional one. -/
def parse (forms : List OptionForm) (interspersed : Bool) :
    Nat → List String → Except UsageError Arguments
  | 0, rest => .ok { positional := rest }
  | _, [] => .ok {}
  | fuel + 1, argument :: rest =>
    if argument = "--" then .ok { positional := rest }
    else if isOption argument then do
      let (found, rest) ← optionsOf forms argument rest
      let others ← parse forms interspersed fuel rest
      return { others with options := found ++ others.options }
    else if interspersed then do
      let others ← parse forms interspersed fuel rest
      return { others with positional := argument :: others.positional }
    else .ok { positional := argument :: rest }

/-- The last value given under one of the names. -/
def value? (a : Arguments) (names : List String) : Option String :=
  (a.options.reverse.find? (names.contains ·.1)).map (·.2)

def isSet (a : Arguments) (name : String) : Bool := a.options.any (·.1 = name)

end Arguments

namespace CommandForm

def program : String := "algagen"

def path (c : CommandForm) : String :=
  if c.name = "" then program else program ++ " " ++ c.name

def parse (c : CommandForm) (interspersed : Bool) (arguments : List String) :
    Except UsageError Arguments :=
  Arguments.parse c.options interspersed arguments.length arguments

def usageLine (c : CommandForm) : String := s!"Usage: {c.path} {c.usage}"

def errorText (c : CommandForm) (e : UsageError) : String :=
  let usage := s!"{c.usageLine}\nTry '{c.path} --help' for help.\n\n"
  (if e.isShort then "" else usage) ++ s!"Error: {e.message}\n"

end CommandForm
end StructureDerive
