import StructureDerive.Text.Quoted

/-! # Writing values

A value as it is shown inside a message, and what keeps it from being written: an integer with too
many digits, or collections that are nested too deep.
-/
namespace StructureDerive

namespace Scalar

def numbersText (numbers : List Nat) : String := ", ".intercalate (numbers.map toString)

/-- An offset as whole days and the seconds that are left, which are not negative. -/
def zoneShown (minutes : Int) : String :=
  let days := minutes.fdiv (24 * 60)
  let seconds := 60 * minutes.fmod (24 * 60)
  let parts := (if days = 0 then [] else [s!"days={days}"]) ++
    if seconds = 0 then [] else [s!"seconds={seconds}"]
  if minutes = 0 then "datetime.timezone.utc"
  else "datetime.timezone(datetime.timedelta(" ++ ", ".intercalate parts ++ "))"

def momentShown (m : Moment) : String :=
  let numbers := [m.date.year, m.date.month, m.date.day] ++ m.clock.fields
  let zone := (m.offset.map fun minutes => ", tzinfo=" ++ zoneShown minutes).getD ""
  s!"datetime.datetime({numbersText numbers}{zone})"

/-- An integer that is too long cannot be written. -/
def obstacle? : Scalar → Option Fault
  | int n => if Numeral.isWritable n then none else some .tooManyDigits
  | _ => none

variable [Host]

def shown : Scalar → String
  | null => "None"
  | bool b => if b then "True" else "False"
  | int n => toString n
  | real x => x.text
  | text s => Text.quoted s
  | bytes content => Text.quotedBytes content
  | date d => s!"datetime.date({numbersText [d.year, d.month, d.day]})"
  | clock c => s!"datetime.time({numbersText c.fields})"
  | moment m => momentShown m

/-- A scalar on its own: a text is itself. -/
def plain : Scalar → String
  | text s => s
  | date d => d.text
  | clock c => c.text
  | moment m => m.text
  | other => other.shown

end Scalar

namespace Value

mutual

/-- What is met first when a value is written within a number of steps down. The items of a set are
first gathered in a list, which takes a step more. -/
def obstacleWithin (depth : Nat) : Value → Option Fault
  | scalar s => s.obstacle?
  | list items | tuple items => obstacleInItems depth items
  | set items =>
    if items.isEmpty then none
    else if depth < 2 then some .tooDeep
    else items.findSome? Scalar.obstacle?
  | table fields => obstacleInFields depth fields

def obstacleInItems (depth : Nat) : List Value → Option Fault
  | [] => none
  | v :: rest =>
    if depth = 0 then some .tooDeep
    else (v.obstacleWithin (depth - 1)).or (obstacleInItems depth rest)

def obstacleInFields (depth : Nat) : List (Scalar × Value) → Option Fault
  | [] => none
  | (k, v) :: rest =>
    if depth = 0 then some .tooDeep
    else (k.obstacle?.or (v.obstacleWithin (depth - 1))).or (obstacleInFields depth rest)

end

variable [Host]

mutual

def shown : Value → String
  | scalar s => s.shown
  | list items => "[" ++ ", ".intercalate (shownItems items) ++ "]"
  | tuple [item] => "(" ++ item.shown ++ ",)"
  | tuple items => "(" ++ ", ".intercalate (shownItems items) ++ ")"
  | set items =>
    if items.isEmpty then "set()"
    else "\x7b" ++ ", ".intercalate (items.map (·.shown)) ++ "\x7d"
  | table fields => "\x7b" ++ ", ".intercalate (shownFields fields) ++ "\x7d"

def shownItems : List Value → List String
  | [] => []
  | v :: rest => v.shown :: shownItems rest

def shownFields : List (Scalar × Value) → List String
  | [] => []
  | (k, v) :: rest => (k.shown ++ ": " ++ v.shown) :: shownFields rest

end

def plain : Value → String
  | scalar s => s.plain
  | other => other.shown

/-- What keeps a value from being written. -/
def obstacle? (v : Value) : Option Fault := v.obstacleWithin Host.depthLimit

def plainText (v : Value) : Except Fault String :=
  match v.obstacle? with
  | some fault => .error fault
  | none => .ok v.plain

end Value
end StructureDerive
