import StructureDerive.Generation.Progress

/-! # Command sessions

A command runs over a file tree and two growing texts, one for results and one for messages. It
ends with an exit code, or stops at a fault; what it has written until then stays.
-/
namespace StructureDerive
variable [Host]

structure Session where
  tree : FileTree
  results : String := ""
  messages : String := ""

inductive Stop where
  | exit (code : Nat)
  | fault (f : Fault)
deriving DecidableEq, Repr

abbrev Command := ExceptT Stop (StateM Session)

inductive Stream where
  | results
  | messages
deriving DecidableEq, Repr

namespace Command

def finish {α : Type} (code : Nat) : Command α := throw (.exit code)

def orFault {α : Type} (x : Except Fault α) : Command α :=
  match x with
  | .ok a => pure a
  | .error f => throw (.fault f)

/-- Goes on with a result. A cause is handed to the second function. -/
def orElse {α : Type} (x : Except Failure α) (onCause : Cause → Command α) : Command α :=
  match x with
  | .ok a => pure a
  | .error (.cause c) => onCause c
  | .error (.fault f) => throw (.fault f)

/-- Writes a text. Of messages, what cannot be printed is written as escapes; of results, it is a
fault, and nothing of the text is written. -/
def write (stream : Stream) (text : String) : Command Unit :=
  match stream with
  | .results =>
    if Text.isPrinted text then modify fun s => { s with results := s.results ++ text }
    else throw (.fault .unencodable)
  | .messages => modify fun s => { s with messages := s.messages ++ text }

/-- Shows a text on lines of its own, with its style tags as they are. -/
def print (stream : Stream) (text : String) : Command Unit := write stream (Host.screen.plain text)

/-- Shows a text whose style tags vanish. -/
def printStyled (stream : Stream) (text : String) : Command Unit := do
  write stream (← orFault (Host.screen.styled text))

/-- Shows the reports of a level or above it. -/
def report (verbose : Bool) (reports : List Report) : Command Unit :=
  let least := if verbose then Level.debug else .warning
  (reports.filter fun r => least.rank ≤ r.level.rank).forM fun r =>
    write .messages (r.text ++ "\n")

end Command

/-- What a command leaves behind: an exit code or a fault, its texts, and the tree. -/
structure Outcome where
  ending : Stop
  session : Session

/-- Runs a command that ends with an exit code. -/
def Command.run (c : Command Nat) (tree : FileTree) : Outcome :=
  match (ExceptT.run c).run { tree } with
  | (.ok code, session) => ⟨.exit code, session⟩
  | (.error stop, session) => ⟨stop, session⟩

end StructureDerive
