import StructureDerive.Command.Arguments
import StructureDerive.Command.Generation

/-! # The command line

The commands with their options, and what a command line does to a file tree. Options of the program
stand before the name of the command.
-/
namespace StructureDerive.Command
variable [Host]

def versionText : String := "algagen, version 0.1.0"

def configNames : List String := ["--config", "-c"]

def outNames : List String := ["--out", "-o"]

def inPlaceNames : List String := ["--in-place"]

def helpForm : OptionForm := ⟨["--help"], false⟩

def programForm : CommandForm where
  name := ""
  options := [⟨configNames, true⟩, ⟨["--verbose", "-V"], false⟩, ⟨["--version"], false⟩, helpForm]
  usage := "[OPTIONS] COMMAND [ARGS]..."

def generateForm : CommandForm where
  name := "generate"
  options := [⟨outNames, true⟩, ⟨inPlaceNames, true⟩, ⟨["--tests"], false⟩, ⟨["--no-tests"], false⟩,
    ⟨["--json"], false⟩, ⟨["--dry-run"], false⟩, helpForm]
  usage := "[OPTIONS] DECLARATIONS"

def expandForm : CommandForm where
  name := "expand"
  options := [⟨["--target"], true⟩, ⟨["--generics"], true⟩, ⟨["--json"], false⟩, helpForm]
  usage := "[OPTIONS] ATTRIBUTES..."

def checkForm : CommandForm where
  name := "check"
  options := [helpForm]
  usage := "[OPTIONS] DECLARATIONS"

def catalogForm : CommandForm where
  name := "catalog"
  options := [⟨["--check"], false⟩, helpForm]
  usage := "[OPTIONS] [KIND]"

def commandForms : List CommandForm := [generateForm, expandForm, checkForm, catalogForm]

/-- Whether a path can only be that of a folder. -/
def endsInFolder (path : String) : Bool :=
  let ending := (path.toList.splitOn '/').getLastD []
  ending = [] || ending = ['.']

def nodeOf (t : FileTree) (path : String) : Except Fault (Option Node) :=
  match t.locate (Path.ofString path) with
  | .error .nul => .error .unnameable
  | .error _ => .ok none
  | .ok l =>
    if path = "" then .ok none
    else
      match t.node? l with
      | some (.file content) => .ok (if endsInFolder path then none else some (.file content))
      | other => .ok other

/-- Why arguments are turned down: they break the usage, or a path in them meets a fault. -/
inductive Refusal where
  | usage (e : UsageError)
  | fault (f : Fault)
deriving DecidableEq, Repr

instance : MonadLift (Except UsageError) (Except Refusal) where
  monadLift x := x.mapError .usage

instance : MonadLift (Except Fault) (Except Refusal) where
  monadLift x := x.mapError .fault

/-- Refuses a folder, a file that cannot be read, and a missing file where one is needed. -/
def checkFile (t : FileTree) (subject path : String) (needed : Bool) : Except Refusal Unit := do
  match ← nodeOf t path with
  | some (.file _) =>
    if (t.read (Path.ofString path)).toOption.isNone then
      throw (.usage (.unreadable subject path))
  | some .folder => throw (.usage (.folder subject path))
  | none => if needed then throw (.usage (.noFile subject path))

def quotedNames (names : List String) : String :=
  " / ".intercalate (names.map fun name => "'" ++ name ++ "'")

/-- Checks the files given as options in the order in which they are given. -/
def checkFiles (t : FileTree) (a : Arguments) (groups : List (List String)) (needed : Bool) :
    Except Refusal Unit :=
  a.options.forM fun (name, _) =>
    match groups.find? (·.contains name) with
    | some names => checkFile t (quotedNames names) ((a.value? names).getD "") needed
    | none => .ok ()

def single? (a : Arguments) : Except UsageError (Option String) :=
  match a.positional with
  | [] => .ok none
  | [argument] => .ok (some argument)
  | _ :: extra => .error (.unexpectedArguments extra)

/-- The declaration file. It is checked before further arguments are refused. -/
def sourceOf (t : FileTree) (a : Arguments) : Except Refusal Path := do
  match a.positional with
  | [] => throw (.usage (.missingArgument "DECLARATIONS"))
  | path :: _ =>
    checkFile t "'DECLARATIONS'" path true
    discard (single? a)
    return Path.ofString path

def pathOf? (a : Arguments) (names : List String) : Option Path :=
  (a.value? names).map Path.ofString

def generateRequest (t : FileTree) (a : Arguments) : Except Refusal GenerateRequest := do
  checkFiles t a [outNames, inPlaceNames] false
  let source ← sourceOf t a
  let lastSwitch := (a.options.reverse.find? fun o => o.1 = "--tests" || o.1 = "--no-tests").map (·.1)
  let out := pathOf? a outNames
  let inPlace := pathOf? a inPlaceNames
  if out.isSome && inPlace.isSome then throw (.usage .exclusive)
  return {
    source, out, inPlace
    withTests := lastSwitch ≠ some "--no-tests"
    json := a.isSet "--json"
    dryRun := a.isSet "--dry-run" }

def expandRequest (a : Arguments) : Except UsageError ExpandRequest :=
  if a.positional.isEmpty then .error (.missingArgument "ATTRIBUTES...")
  else .ok {
    attributes := a.positional
    target := (a.value? ["--target"]).getD "T"
    generics := a.value? ["--generics"]
    json := a.isSet "--json" }

def orUsage {α : Type} (form : CommandForm) (x : Except Refusal α) : Command α :=
  match x with
  | .ok a => pure a
  | .error (.fault f) => throw (.fault f)
  | .error (.usage e) => do
    write .messages (form.errorText e)
    finish 2

def refuse {α : Type} (cause : Cause) : Command α := do
  write .messages s!"Error: {cause.message}\n"
  finish 1

def catalogCommand (a : Arguments) (kind : Option String) (options : Options) : Command Nat := do
  let catalog ← orElse (options.catalog (← get).tree) refuse
  if a.isSet "--check" then catalog.check
  else
    match kind.filter (· ≠ "") with
    | some kind => catalog.explain kind
    | none => catalog.list

def dispatch (form : CommandForm) (arguments : List String) (options : Options) (verbose : Bool) :
    Command Nat := do
  let a ← orUsage form (form.parse true arguments)
  let tree := (← get).tree
  if a.isSet "--help" then
    write .results (form.usageLine ++ "\n")
    finish 0
  if form.name = generateForm.name then
    (← orUsage form (generateRequest tree a)).run options verbose
  else if form.name = expandForm.name then
    (← orUsage form (expandRequest a)).run options verbose
  else if form.name = checkForm.name then
    check (← orUsage form (sourceOf tree a)) options verbose
  else catalogCommand a (← orUsage form (single? a)) options

/-- The options of the given configuration, or of the nearest one, or else the usual ones. -/
def optionsFor (a : Arguments) (t : FileTree) : Except Failure Options := do
  let path? ← match pathOf? a configNames with
    | some path => pure (some path)
    | none => Configuration.find t {}
  match path? with
  | some path => Configuration.load t path
  | none => return {}

def programArguments (arguments : List String) : Command Arguments := do
  let a ← orUsage programForm (programForm.parse false arguments)
  if a.isSet "--version" then
    write .results (versionText ++ "\n")
    finish 0
  if a.isSet "--help" then
    write .results (programForm.usageLine ++ "\n")
    finish 0
  orUsage programForm (checkFiles (← get).tree a [configNames] true)
  return a

def unknownCommand (name : String) : UsageError :=
  .unknownCommand name (Text.suggestions name (commandForms.map (·.name)))

/-- The whole command line. What is no command may still be an option of the program. -/
def line (arguments : List String) : Command Nat := do
  let a ← programArguments arguments
  match a.positional with
  | [] => orUsage programForm (throw .missingCommand : Except UsageError Nat)
  | name :: rest =>
    match commandForms.find? (·.name = name) with
    | none => do
      discard (programArguments a.positional)
      orUsage programForm (throw (unknownCommand name) : Except UsageError Nat)
    | some form =>
      let options ← orElse (optionsFor a (← get).tree) refuse
      dispatch form rest options (a.isSet "--verbose" || a.isSet "-V")

end StructureDerive.Command
