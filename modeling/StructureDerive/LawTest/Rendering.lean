import StructureDerive.LawTest.Matrix
import StructureDerive.Text.Lines

/-! # The text of law tests

Each test is a function on one tuple of arguments; the tests of a target stand in one module.
-/
namespace StructureDerive

def defaultCrate : String := "alga"

namespace LawTest

/-- The types of the argument tuple. A tuple of one keeps its comma. -/
def parameterList (t : LawTest) : String :=
  commaList t.parameters ++ if t.parameters.length = 1 then "," else ""

def header (t : LawTest) (result : String) : String :=
  s!"fn {t.name}(args: ({t.parameterList})) -> {result} \x7b"

def lines (t : LawTest) : Except Fault (List String) := do
  let body ← match t.guard, t.parameters with
    | none, _ => pure [t.header "bool", s!"    {t.invocation}"]
    | some _, [] => throw .missingItem
    | some guard, type :: _ =>
      pure (t.header "::quickcheck::TestResult" ::
        Text.indent "    " (guard.expression type t.parameters.length) ++
          [s!"    ::quickcheck::TestResult::from_bool({t.invocation})"])
  return "#[::quickcheck_macros::quickcheck]" :: body ++ ["\x7d"]

def inModule (t : LawTest) : Except Fault (List String) :=
  return "" :: Text.indent "    " ("\n".intercalate (← t.lines))

end LawTest

namespace Target

def externLine (crate : String) : String := s!"    extern crate {crate} as _alga;"

def renderTests (t : Target) (tests : List LawTest) (crate : String := defaultCrate) :
    Except Fault String := do
  if tests.isEmpty then return ""
  let bodies ← tests.mapM (·.inModule)
  let lines := ["#[cfg(test)]", "#[allow(non_snake_case)]", s!"mod {t.testModuleName} \x7b",
    externLine crate, "    use super::*;"] ++ bodies.flatten ++ ["\x7d"]
  return "\n".intercalate lines ++ "\n"

end Target
end StructureDerive
