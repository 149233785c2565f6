import StructureDerive.Cause
import StructureDerive.Text.Blank
import StructureDerive.Text.Search

/-! # The generated region of a source file

Generated code lies between two marker lines. An update replaces what stands between the markers
and keeps all text outside; a file without them gets the region at its end.
-/
namespace StructureDerive.Region

def startMarker : String := "// <algagen> generated below; do not edit by hand"

def endMarker : String := "// </algagen>"

/-- Generated code between its markers. -/
def block (generated : String) : String :=
  startMarker ++ "\n" ++ Text.stripRight generated ++ "\n" ++ endMarker

/-- Replaces from the first start marker to the first end marker after it. -/
def replace (existing generated : String) : Except Fault String :=
  match Text.splitAtFirst startMarker.toList existing.toList with
  | none => .error .endBeforeStart
  | some (before, rest) =>
    match Text.splitAtFirst endMarker.toList rest with
    | none => .error .endBeforeStart
    | some (_, after) => .ok (String.ofList before ++ block generated ++ String.ofList after)

/-- The region alone, or after a free line at the end of the text. -/
def append (existing generated : String) : String :=
  if Text.allBlank existing then block generated ++ "\n"
  else Text.stripRight existing ++ "\n\n" ++ block generated ++ "\n"

def hasMarkers (existing : String) : Bool :=
  Text.occursIn startMarker.toList existing.toList && Text.occursIn endMarker.toList existing.toList

/-- The text with its region brought up to date. -/
def update (existing generated : String) : Except Fault String :=
  if hasMarkers existing then replace existing generated else .ok (append existing generated)

end StructureDerive.Region
