/-! # Faults

Conditions that end an operation without a cause for the reader.
-/
namespace StructureDerive

inductive Fault where
  /-- A file is missing or may not be opened, a folder stands in place of a file, or its folder is
  missing. -/
  | inaccessibleFile
  /-- A path holds a character that no name can hold. -/
  | unnameable
  /-- A file that has to hold text is not UTF-8. -/
  | notUtf8
  /-- A text that has to be encoded holds a character that the encoding lacks. -/
  | unencodable
  /-- An integer has too many digits to be written. -/
  | tooManyDigits
  /-- A value is nested too deep to be written. -/
  | tooDeep
  /-- A value without elements is gone through. -/
  | notEnumerable
  /-- A name is looked for in a value that holds none. -/
  | notSearchable
  /-- A field is read from a value that is not a table. -/
  | notTable
  /-- An infinite number is asked for its integer part. -/
  | infiniteInteger
  /-- An argument list is shorter than the parameters that it fills. -/
  | tooFewArguments
  /-- The first item of an empty list is needed. -/
  | missingItem
  /-- The only end marker stands before the start marker. -/
  | endBeforeStart
  /-- A closing style tag has no opening one. -/
  | unmatchedTag
  /-- The parameters of an event tag are no literal. -/
  | malformedParameters
  /-- A colour leaves out one of its parts. -/
  | emptyColorPart
deriving DecidableEq, Repr

end StructureDerive
