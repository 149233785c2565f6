import StructureDerive.Fault

/-! # Screens

What a terminal makes of the texts that a command shows on it.
-/
namespace StructureDerive

structure TableColumn where
  header : String
  alignRight : Bool := false

structure Table where
  title : String
  columns : List TableColumn
  rows : List (List String) := []

/-- How texts look on a terminal, line ends included. In styled texts and in tables there may be
style tags, which can be malformed. -/
structure Screen where
  plain : String → String
  styled : String → Except Fault String
  table : Table → Except Fault String
  difference : String → String
  /-- A text that shows as it is when it stands in a styled one. -/
  escaped : String → String

end StructureDerive
