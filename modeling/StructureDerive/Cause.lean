import StructureDerive.Format.Json
import StructureDerive.Value.Writing

/-! # Causes of failure

Why an input is turned down. Each cause has a code, a message for the reader and a context of named
facts. A cause whose message cannot be written is a fault instead.
-/
namespace StructureDerive
variable [Host]

def commaList (items : List String) : String := ", ".intercalate items

/-- What is wrong with a declaration, a catalog document or a configuration. -/
inductive DeclarationIssue where
  | stated (message : String)
  | unreadableAttribute (given : String)
  | blankGeneric (given : Value)
  | constWithoutType (parameter : String)
  | unreadableGeneric (parameter : String)
  | unnamedTarget (position : Int)
  | traitsNotList (target : String)
  | unreadableEntry (target : String) (entry : Value)
  | notTexts (subject : String)
  | guardShape
  | sameTestName (first second target name : String)
  | fileNotFound (path : String)
  | malformedDocument (path : String)
  | malformedCatalog (path : String)
  | malformedConfiguration (path : String)
  | noTargets (path : String)
  | targetNotTable (path : String) (position : Nat)
  | unnamedKind (path : String)
  | lawShape (path kind : String)
  | notInteger (subject : String) (given : Value)
  | notKindNames (subject : String)

def DeclarationIssue.message : DeclarationIssue → String
  | stated message => message
  | unreadableAttribute given =>
    s!"Cannot read attribute {Text.quoted given}; expected `Trait(Operator, ...)` or " ++
      "`Where = \"clause\"`."
  | blankGeneric given => s!"Generic parameter must be a non-empty string, got {given.shown}"
  | constWithoutType parameter => s!"Const generic `{parameter}` needs a type"
  | unreadableGeneric parameter => s!"Cannot read generic parameter {Text.quoted parameter}"
  | unnamedTarget position => s!"targets[{position}] needs a name"
  | traitsNotList target => s!"{target}.traits must be a list"
  | unreadableEntry target entry => s!"{target}.traits: cannot read trait entry {entry.shown}"
  | notTexts subject => s!"{subject} must be a string or a list of strings"
  | guardShape => "guard must be a boolean or a table"
  | sameTestName first second target name =>
    s!"{first} and {second} of `{target}` produce the same test name `{name}`; " ++
      "rename one of the operators."
  | fileNotFound path => s!"Declaration file not found: {path}"
  | malformedDocument path => s!"Failed to parse {path}: malformed document"
  | malformedCatalog path => s!"Failed to parse catalog TOML {path}: malformed document"
  | malformedConfiguration path => s!"Failed to parse config TOML {path}: malformed document"
  | noTargets path => s!"{path}: expected a top-level `targets` list"
  | targetNotTable path position => s!"{path}: targets[{position}] must be a table"
  | unnamedKind path => s!"{path}: every [[kinds]] entry needs a name"
  | lawShape path kind => s!"{path}: properties of `{kind}` must be tables with name and arity"
  | notInteger subject given => s!"{subject} must be an integer, got {given.shown}"
  | notKindNames subject => s!"{subject} must be a list of kind names"

def DeclarationIssue.obstacle? : DeclarationIssue → Option Fault
  | blankGeneric given | unreadableEntry _ given | notInteger _ given => given.obstacle?
  | unnamedTarget position => (Scalar.int position).obstacle?
  | _ => none

/-- What is wrong with the concrete types asked for in tests. -/
inductive InstantiationIssue where
  | stated (detail : String)
  | notList (given : Value)
  | unreadable (given : Value)
  | notTypeName (given : Value)
  | notConcrete (given : String)
  | notGeneric (types : List String)
  | wrongCount (types : List String) (expected : Nat)
  | missing (target : String)
  | sameTestName (first second : List String) (target name : String)

def InstantiationIssue.detail : InstantiationIssue → String
  | stated detail => detail
  | notList given => s!"Expected a list of instantiations, got {given.shown}."
  | unreadable given => s!"Cannot read instantiation {given.shown}."
  | notTypeName given => s!"Expected a type name, got {given.shown}."
  | notConcrete given => s!"`{given}` is not a concrete type."
  | notGeneric types =>
    s!"Instantiation ({commaList types}) given for a target without generic parameters."
  | wrongCount types expected =>
    s!"Instantiation ({commaList types}) has {types.length} types, " ++
      s!"the target has {expected} generic parameters."
  | missing target =>
    s!"`{target}` is generic; property tests need at least one instantiation."
  | sameTestName first second target name =>
    s!"Instantiations ({commaList first}) and ({commaList second}) of `{target}` " ++
      s!"produce the same test name `{name}`."

def InstantiationIssue.obstacle? : InstantiationIssue → Option Fault
  | notList given | unreadable given | notTypeName given => given.obstacle?
  | _ => none

inductive Cause where
  | unclassified (message : String)
  | unknownKind (given : String) (suggestion : Option String)
  | arityMismatch (kind : String) (expected actual : Int)
  | misplacedWhere (reason : String)
  | malformedWhere (given : Value)
  | malformedOperator (kind : String) (given : Value)
  | emptyStructureList (target : Option String)
  | malformedInstantiation (issue : InstantiationIssue)
  | declaration (issue : DeclarationIssue)
  | inconsistentCatalog (problems : List String)

namespace Cause

def code : Cause → String
  | unclassified _ => "derive-error"
  | unknownKind .. => "unknown-kind"
  | arityMismatch .. => "arity-mismatch"
  | misplacedWhere _ => "misplaced-where"
  | malformedWhere _ => "malformed-where"
  | malformedOperator .. => "malformed-operator"
  | emptyStructureList _ => "empty-structure-list"
  | malformedInstantiation _ => "malformed-instantiation"
  | declaration _ => "declaration-error"
  | inconsistentCatalog _ => "catalog-error"

/-- Placeholders for the operators of a kind, as they are shown to the reader. -/
def operatorSlots (arity : Int) : String :=
  if arity = 1 then "Operator"
  else commaList ((List.range arity.toNat).map fun i => s!"Operator{i + 1}")

def arityDetail (actual : Int) : String :=
  if actual = 0 then "none provided"
  else if actual = 1 then "only one provided"
  else "too many provided"

def suggestionText : Option String → String
  | none => ""
  | some suggestion => if suggestion = "" then "" else s!" Did you mean `{suggestion}`?"

def message : Cause → String
  | unclassified message => message
  | unknownKind given suggestion =>
    s!"Unknown structure kind `{given}`." ++ suggestionText suggestion
  | arityMismatch kind expected actual =>
    let noun := if expected = 1 then "operator" else "operators"
    s!"`{kind}` requires {expected} {noun}, {arityDetail actual}.\n" ++
      s!"Operators have to be specified explicitly: `{kind}({operatorSlots expected})`."
  | misplacedWhere reason => s!"Misplaced `Where` entry: {reason}."
  | malformedWhere given =>
    "Where clause has to be a single string: `Where = \"T: Trait\"`, got " ++ given.shown ++ "."
  | malformedOperator kind given =>
    s!"Operator of `{kind}` has to be a type name such as `Additive`, got {given.shown}."
  | emptyStructureList _ =>
    "At least one trait is required to be implemented.\n" ++
      "Traits can be specified as `Trait(Operator, ...)` entries."
  | malformedInstantiation issue =>
    issue.detail ++ "\nConcrete types have to be provided as `check(Type1, Type2, ...)`, " ++
      "one type per generic parameter, without quotes."
  | declaration issue => issue.message
  | inconsistentCatalog problems =>
    "Inconsistent catalog:\n" ++ "\n".intercalate (problems.map ("- " ++ ·))

def context : Cause → List (String × Json)
  | unclassified _ | declaration _ => []
  | unknownKind given suggestion => [("given", .text given), ("suggestion", .optional suggestion)]
  | arityMismatch kind expected actual =>
    [("kind", .text kind), ("expected", .int expected), ("actual", .int actual),
      ("detail", .text (arityDetail actual))]
  | misplacedWhere reason => [("reason", .text reason)]
  | malformedWhere given => [("value", .text given.shown)]
  | malformedOperator kind given => [("kind", .text kind), ("operator", .text given.shown)]
  | emptyStructureList target => [("target", .optional target)]
  | malformedInstantiation issue => [("detail", .text issue.detail)]
  | inconsistentCatalog problems => [("problems", .texts problems)]

/-- Code, message and context as one record. -/
def fields (c : Cause) : List (String × Json) :=
  ("code", .text c.code) :: ("message", .text c.message) :: c.context

def leadingWhere : Cause := .misplacedWhere "where clause before any traits"

def adjacentWhere : Cause := .misplacedWhere "multiple where clauses next to each other"

/-- What keeps the numbers and values that a message shows from being written. -/
def obstacle? : Cause → Option Fault
  | arityMismatch _ expected actual => (Scalar.int expected).obstacle?.or (Scalar.int actual).obstacle?
  | malformedWhere given | malformedOperator _ given => given.obstacle?
  | malformedInstantiation issue => issue.obstacle?
  | declaration issue => issue.obstacle?
  | _ => none

end Cause

inductive Failure where
  | cause (c : Cause)
  | fault (f : Fault)

/-- The failure that a cause is. -/
def Failure.ofCause (c : Cause) : Failure := (c.obstacle?.map fault).getD (cause c)

def intText (n : Int) : Except Fault String :=
  if Numeral.isWritable n then .ok (toString n) else .error .tooManyDigits

namespace Value

/-- What a value is made of, to be gone through. -/
def elements (v : Value) : Except Fault (List Value) :=
  match v.elements? with
  | some items => .ok items
  | none => .error .notEnumerable

/-- Whether a value holds a name. -/
def holds (v : Value) (name : String) : Except Fault Bool :=
  match v.holds? name with
  | some found => .ok found
  | none => .error .notSearchable

/-- The fields of a table. -/
def fields : Value → Except Fault (List (Scalar × Value))
  | table fields => .ok fields
  | _ => .error .notTable

end Value

/-- Steps that only fail with a cause are steps that may also meet a fault. -/
instance : MonadLift (Except Cause) (Except Failure) where
  monadLift x := x.mapError Failure.ofCause

instance : MonadLift (Except Fault) (Except Failure) where
  monadLift x := x.mapError .fault

end StructureDerive
