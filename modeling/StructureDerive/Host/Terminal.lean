import StructureDerive.Format.Markup
import StructureDerive.Format.Table
import StructureDerive.Format.Yaml.Document
import StructureDerive.Host

/-! # The usual host

A terminal without colour, and documents in the part of YAML that is most in use.
-/
namespace StructureDerive.Host

namespace Terminal

def plain (s : String) : String :=
  Markup.shown (String.ofList (Emoji.replace s.toList)) ++ "\n"

def styled (s : String) : Except Fault String := return Markup.shown (← Markup.strip s) ++ "\n"

def table (t : Table) : Except Fault String := do
  let cell (s : String) : Except Fault String := return Markup.dropControls (← Markup.strip s)
  let title ← cell t.title
  let rows ← t.rows.mapM fun row => row.mapM cell
  return { t with title, rows : Table }.render

/-- Tabs are four columns wide, and all line ends are line feeds. -/
def difference (s : String) : String :=
  Markup.shownUnbroken (String.ofList (Text.foldReturns (Text.expandColumns 4 0 s.toList))) ++ "\n"

def screen : Screen := { plain, styled, table, difference, escaped := Markup.escape }

def depthLimit : Nat := 980

/-- Everything but surrogates can be printed. -/
def prints (c : Char) : Bool := (Text.usualSurrogate? c).isNone

theorem prints_of_ascii {c : Char} (h : c.toNat < 128) : prints c := by
  rw [prints, Option.isNone_iff_eq_none, Option.eq_none_iff_forall_ne_some]
  intro s hs
  have hprivate := Text.isPrivateUse_of_usualSurrogate? hs
  simp only [Text.isPrivateUse, Bool.or_eq_true, Bool.and_eq_true, decide_eq_true_eq] at hprivate
  omega

end Terminal

@[reducible] def terminal : Host where
  depthLimit := Terminal.depthLimit
  surrogate? := Text.usualSurrogate?
  isPrivateUse_of_surrogate? := Text.isPrivateUse_of_usualSurrogate?
  readYaml := Yaml.parse Terminal.depthLimit
  prints := Terminal.prints
  prints_of_ascii := Terminal.prints_of_ascii
  screen := Terminal.screen

end StructureDerive.Host
