import StructureDerive.Files.Path
import StructureDerive.LawTest.Rendering

/-! # Generator options

The crate whose traits are implemented, the settings of the tests, and a catalog extension.
-/
namespace StructureDerive
variable [Host]

structure Options where
  crate : String := defaultCrate
  approx : Bool := false
  guard : GuardPolicy := {}
  catalogPath : Option Path := none
deriving DecidableEq, Repr

namespace Options

/-- The catalog path of a table, below the base folder unless it is absolute. -/
def catalogPathOf (fields : List (Scalar × Value)) (base : Option Path) : Option Path :=
  ((Value.lookup fields "catalog").bind Value.text?).bind Text.nonBlank? |>.map fun s =>
    let p := Path.ofString s
    (base.map (·.join p)).getD p

/-- Reads a table of options. A blank crate name stands for the usual crate. -/
def ofFields (fields : List (Scalar × Value)) (base : Option Path) : Except Failure Options := do
  let crate ← ((Value.lookup fields "crate").getD (.text defaultCrate)).plainText
  let guard ← GuardPolicy.ofValue ((Value.lookup fields "guard").getD .null)
  return {
    crate := (Text.nonBlank? crate).getD defaultCrate
    approx := ((Value.lookup fields "approx").map Value.truth).getD false
    guard
    catalogPath := catalogPathOf fields base }

def ofValue (data : Value) (base : Option Path) : Except Failure Options := do
  ofFields (← data.fields) base

end Options
end StructureDerive
