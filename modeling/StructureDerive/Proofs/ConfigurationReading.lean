import StructureDerive.Host.Terminal
import StructureDerive.Proofs.CatalogReading
import StructureDerive.Proofs.GuardTable
import StructureDerive.Proofs.NearestConfiguration
import StructureDerive.Proofs.StageFault

/-! # Reading the configuration that is found

A configuration file that the search finds is loaded, or turned down with a cause. The exceptions are
files that may not be read, values that loading does not look at before it reads fields from them
(whatever stands in place of the tools or of the section of a project, and tools that a name is looked
for in), and values that cannot be written.
-/
namespace StructureDerive
open Outcome

namespace Value
variable {name : String} {v : Value}

/-- Numbers, truth values, bytes, dates and the missing value cannot be searched for a name. -/
def HoldsNoNames (v : Value) : Prop := ∃ s, v = .scalar s ∧ ∀ text, s ≠ .text text

theorem holds?_eq_none_iff (name : String) : v.holds? name = none ↔ v.HoldsNoNames := by
  unfold holds?
  split
  · exact iff_of_false nofun nofun
  · exact iff_of_false nofun nofun
  · exact iff_of_false nofun nofun
  · exact iff_of_false nofun nofun
  · refine iff_of_false nofun ?_
    rintro ⟨_, ⟨⟩, htext⟩
    exact htext _ rfl
  · rename_i htable hlist htuple hset htext
    refine iff_of_true rfl ?_
    cases v with
    | scalar s => exact ⟨s, rfl, fun text h => htext text (h ▸ rfl)⟩
    | list items => exact absurd rfl (hlist items)
    | tuple items => exact absurd rfl (htuple items)
    | set items => exact absurd rfl (hset items)
    | table fields => exact absurd rfl (htable fields)

theorem holds?_eq_some_false_iff :
    v.holds? name = some false ↔ ¬ v.HoldsNoNames ∧ ¬ v.HoldsName name := by
  rw [← holds?_eq_none_iff name, ← holds?_eq_some_true_iff]
  cases v.holds? name with
  | none => simp
  | some found => cases found <;> simp

theorem holds_eq_error_iff {fault : Fault} :
    v.holds name = .error fault ↔ v.HoldsNoNames ∧ fault = .notSearchable := by
  rw [← holds?_eq_none_iff name, holds]
  cases v.holds? name <;> simp [eq_comm]

theorem holds_eq_ok_iff {found : Bool} : v.holds name = .ok found ↔ v.holds? name = some found := by
  rw [holds]
  cases v.holds? name <;> simp

end Value

namespace GuardPolicy
variable [Host] {fields : List (Scalar × Value)} {v : Value} {fault : Fault} {cause : Cause}

/-- What keeps an override from being written. The key goes first. -/
def overrideObstacle? (f : Scalar × Value) : Option Fault :=
  (Value.scalar f.1).obstacle?.or f.2.obstacle?

theorem overrideText_eq_error_iff (f : Scalar × Value) : (do
      return (← (Value.scalar f.1).plainText, Text.nonBlank? (← f.2.plainText)) :
        Except Fault (String × Option String)) = .error fault ↔
      overrideObstacle? f = some fault := by
  simp only [bind_eq_error_iff, Value.plainText_eq_error_iff, Value.plainText_eq_ok_iff,
    Value.isWritable_iff, overrideObstacle?, Option.or_eq_some_iff]
  constructor
  · rintro (hkey | ⟨_, ⟨hkey, rfl⟩, hvalue | ⟨_, _, ⟨⟩⟩⟩)
    · exact Or.inl hkey
    · exact Or.inr ⟨hkey, hvalue⟩
  · rintro (hkey | ⟨hkey, hvalue⟩)
    · exact Or.inl hkey
    · exact Or.inr ⟨_, ⟨hkey, rfl⟩, Or.inl hvalue⟩

/-- The first override that cannot be written ends the reading. -/
theorem ofFields_eq_error_iff : ofFields fields = .error fault ↔
    (overrideFields fields).findSome? overrideObstacle? = some fault := by
  rw [ofFields, bind_eq_error_iff,
    mapM_eq_error_iff_findSome? fun f _ => overrideText_eq_error_iff f]
  refine or_iff_left ?_
  rintro ⟨_, _, ⟨⟩⟩

theorem isOfWriting_of_overrideObstacle? {f : Scalar × Value}
    (h : overrideObstacle? f = some fault) : fault.IsOfWriting := by
  rcases Option.or_eq_some_iff.mp h with h | ⟨_, h⟩
  · exact Value.isOfWriting_of_obstacle? h
  · exact Value.isOfWriting_of_obstacle? h

/-- A guard ends the loading only as a table with an override that cannot be written. -/
theorem ofValue_eq_fault_iff : ofValue v = .error (.fault fault) ↔ ∃ fields, v = .table fields ∧
    (overrideFields fields).findSome? overrideObstacle? = some fault := by
  unfold ofValue
  split
  · exact iff_of_false nofun nofun
  · exact iff_of_false nofun nofun
  · rename_i fields
    rw [liftM_fault_eq_fault_iff, ofFields_eq_error_iff]
    simp
  · rename_i htable
    refine iff_of_false nofun ?_
    rintro ⟨fields, rfl, _⟩
    exact htable fields rfl

theorem ofValue_eq_cause (h : ofValue v = .error (.cause cause)) :
    cause = .declaration .guardShape := by
  unfold ofValue at h
  split at h
  · cases h
  · cases h
  · obtain ⟨_, _, ⟨⟩⟩ := mapError_eq_error_iff.mp h
  · cases h
    rfl

end GuardPolicy

namespace Options
variable {fields : List (Scalar × Value)} {base : Option Path} {v : Value} {fault : Fault}
variable {cause : Cause}

def crateValue (fields : List (Scalar × Value)) : Value :=
  (Value.lookup fields "crate").getD (.text defaultCrate)

theorem getD_eq_table_iff {value : Option Value} {guards : List (Scalar × Value)} :
    value.getD .null = .table guards ↔ value = some (.table guards) := by
  cases value <;> simp

variable [Host]

/-- The ways in which a table of options meets a fault: the name of the crate cannot be written, or
one of the overrides of the guard. -/
inductive OptionsFault (fields : List (Scalar × Value)) (fault : Fault) : Prop where
  | crate : (crateValue fields).obstacle? = some fault → OptionsFault fields fault
  | guard {guards : List (Scalar × Value)} : (crateValue fields).isWritable →
      Value.lookup fields "guard" = some (.table guards) →
      (GuardPolicy.overrideFields guards).findSome? GuardPolicy.overrideObstacle? = some fault →
      OptionsFault fields fault

theorem OptionsFault.isOfWriting (h : OptionsFault fields fault) : fault.IsOfWriting := by
  cases h with
  | crate h => exact Value.isOfWriting_of_obstacle? h
  | guard _ _ h =>
    obtain ⟨f, _, hf⟩ := List.exists_of_findSome?_eq_some h
    exact GuardPolicy.isOfWriting_of_overrideObstacle? hf

theorem ofFields_eq_fault_iff :
    ofFields fields base = .error (.fault fault) ↔ OptionsFault fields fault := by
  unfold ofFields
  simp only [bind_eq_error_iff, liftM_fault_eq_fault_iff, liftM_fault_eq_ok_iff,
    Value.plainText_eq_error_iff, Value.plainText_eq_ok_iff, GuardPolicy.ofValue_eq_fault_iff,
    getD_eq_table_iff]
  constructor
  · rintro (hcrate | ⟨_, ⟨hcrate, _⟩, ⟨guards, hguards, hfault⟩ | ⟨_, _, ⟨⟩⟩⟩)
    · exact .crate hcrate
    · exact .guard hcrate hguards hfault
  · rintro (hcrate | ⟨hcrate, hguards, hfault⟩)
    · exact Or.inl hcrate
    · exact Or.inr ⟨_, ⟨hcrate, rfl⟩, Or.inl ⟨_, hguards, hfault⟩⟩

theorem ofFields_eq_cause (h : ofFields fields base = .error (.cause cause)) :
    cause = .declaration .guardShape := by
  unfold ofFields at h
  rcases bind_eq_error_iff.mp h with h | ⟨_, _, h⟩
  · obtain ⟨_, _, ⟨⟩⟩ := mapError_eq_error_iff.mp h
  · rcases bind_eq_error_iff.mp h with h | ⟨_, _, ⟨⟩⟩
    exact GuardPolicy.ofValue_eq_cause h

/-- The ways in which a section of options meets a fault. -/
inductive SectionFault : Value → Fault → Prop where
  | shape {v : Value} : (∀ fields, v ≠ .table fields) → SectionFault v .notTable
  | options {fields : List (Scalar × Value)} {fault : Fault} : OptionsFault fields fault →
      SectionFault (.table fields) fault

theorem ofValue_eq_fault_iff :
    ofValue v base = .error (.fault fault) ↔ SectionFault v fault := by
  unfold ofValue
  simp only [bind_eq_error_iff, liftM_fault_eq_fault_iff, liftM_fault_eq_ok_iff,
    Value.fields_eq_error_iff, Value.fields_eq_ok_iff, ofFields_eq_fault_iff]
  constructor
  · rintro (⟨hshape, rfl⟩ | ⟨fields, rfl, hfault⟩)
    · exact .shape hshape
    · exact .options hfault
  · rintro (hshape | hfault)
    · exact Or.inl ⟨hshape, rfl⟩
    · exact Or.inr ⟨_, rfl, hfault⟩

theorem ofValue_eq_cause (h : ofValue v base = .error (.cause cause)) :
    cause = .declaration .guardShape := by
  rcases bind_eq_error_iff.mp h with h | ⟨_, _, h⟩
  · obtain ⟨_, _, ⟨⟩⟩ := mapError_eq_error_iff.mp h
  · exact ofFields_eq_cause h

end Options

namespace Configuration
open FileTree Options
variable {t : FileTree} {p start : Path} {fields : List (Scalar × Value)} {v : Value}
variable {fault : Fault} {cause : Cause} {content : ByteArray}

/-- Where the options of a parsed file stand, or why none can be read. A project has them in the
section of its tools. Any other file has them there too if its tools hold the name of the section, and
else it is the section itself. -/
inductive OptionsAt (p : Path) (fields : List (Scalar × Value)) : Except Fault Value → Prop where
  | inner {inner : List (Scalar × Value)} {v : Value} :
      Value.lookup fields toolsKey = some (.table inner) →
      Value.lookup inner sectionKey = some v → OptionsAt p fields (.ok v)
  | absent : p.name = projectFile →
      (∀ tools, Value.lookup fields toolsKey = some tools →
        ∃ inner, tools = .table inner ∧ Value.lookup inner sectionKey = none) →
      OptionsAt p fields (.ok (.table []))
  | whole : p.name ≠ projectFile →
      (∀ tools, Value.lookup fields toolsKey = some tools →
        ¬ tools.HoldsNoNames ∧ ¬ tools.HoldsName sectionKey) →
      OptionsAt p fields (.ok (.table fields))
  | tools {tools : Value} : p.name = projectFile → Value.lookup fields toolsKey = some tools →
      (∀ inner, tools ≠ .table inner) → OptionsAt p fields (.error .notTable)
  | search {tools : Value} : p.name ≠ projectFile → Value.lookup fields toolsKey = some tools →
      (∀ inner, tools ≠ .table inner) → tools.HoldsNoNames ∨ tools.HoldsName sectionKey →
      OptionsAt p fields (.error .notSearchable)

/-- The value that the options are read from. -/
def optionsValue (p : Path) (fields : List (Scalar × Value)) : Except Fault Value :=
  if p.name = projectFile then projectSection fields else ownSection fields

theorem optionsAt_projectSection (hname : p.name = projectFile) :
    OptionsAt p fields (projectSection fields) := by
  rw [projectSection]
  cases htools : Value.lookup fields toolsKey with
  | none => exact .absent hname fun tools h => by cases htools.symm.trans h
  | some tools =>
    cases hfields : tools.fields with
    | ok inner =>
      obtain rfl := Value.fields_eq_ok_iff.mp hfields
      cases hinner : Value.lookup inner sectionKey with
      | none =>
        have habsent : OptionsAt p fields (.ok (.table [])) := by
          refine .absent hname fun tools h => ?_
          obtain rfl := Option.some.inj (htools.symm.trans h)
          exact ⟨inner, rfl, hinner⟩
        simpa [hfields, hinner, bind, Except.bind, pure, Except.pure] using habsent
      | some v =>
        have hv : OptionsAt p fields (.ok v) := .inner htools hinner
        simpa [hfields, hinner, bind, Except.bind, pure, Except.pure] using hv
    | error fault =>
      obtain ⟨hshape, rfl⟩ := Value.fields_eq_error_iff.mp hfields
      have htools : OptionsAt p fields (.error .notTable) := .tools hname htools hshape
      simpa [hfields, bind, Except.bind] using htools

theorem optionsAt_ownSection (hname : p.name ≠ projectFile) :
    OptionsAt p fields (ownSection fields) := by
  rw [ownSection]
  split
  · rename_i htools
    exact .whole hname fun tools h => by cases htools.symm.trans h
  · rename_i tools htools
    cases hholds : tools.holds? sectionKey with
    | none =>
      have hnone := (Value.holds?_eq_none_iff sectionKey).mp hholds
      have hshape : ∀ inner, tools ≠ .table inner := by
        rintro inner rfl
        cases hholds
      rw [Value.holds_eq_error_iff.mpr ⟨hnone, rfl⟩]
      exact .search hname htools hshape (Or.inl hnone)
    | some found =>
      rw [Value.holds_eq_ok_iff.mpr hholds]
      cases found with
      | false =>
        refine .whole hname fun other h => ?_
        obtain rfl := Option.some.inj (htools.symm.trans h)
        exact Value.holds?_eq_some_false_iff.mp hholds
      | true =>
        have hnamed := Value.holds?_eq_some_true_iff.mp hholds
        cases tools with
        | table inner =>
          obtain ⟨v, hv⟩ := Option.isSome_iff_exists.mp (Option.some.inj hholds)
          have hinner : OptionsAt p fields (.ok v) := .inner htools hv
          simpa [hv, bind, Except.bind, pure, Except.pure] using hinner
        | _ => exact .search hname htools nofun (Or.inr hnamed)

theorem projectSection_eq {r : Except Fault Value} (hname : p.name = projectFile)
    (h : OptionsAt p fields r) : projectSection fields = r := by
  rw [projectSection]
  cases h with
  | inner htools hv =>
    rw [htools, Option.getD_some, Value.fields]
    simp [bind, Except.bind, pure, Except.pure, hv]
  | absent _ habsent =>
    cases htools : Value.lookup fields toolsKey with
    | none => rfl
    | some tools =>
      obtain ⟨inner, rfl, hinner⟩ := habsent tools htools
      simp [bind, Except.bind, pure, Except.pure, Value.fields, hinner]
  | whole hother => exact absurd hname hother
  | @tools tools _ htools hshape =>
    rw [htools, Option.getD_some, Value.fields_eq_error_iff.mpr ⟨hshape, rfl⟩]
    rfl
  | search hother => exact absurd hname hother

theorem ownSection_eq {r : Except Fault Value} (hname : p.name ≠ projectFile)
    (h : OptionsAt p fields r) : ownSection fields = r := by
  rw [ownSection]
  cases h with
  | @inner inner v htools hv =>
    have hholds : Value.holds (.table inner) sectionKey = .ok true := by
      simp [Value.holds, Value.holds?, hv]
    rw [htools]
    dsimp only
    rw [hholds, hv]
    rfl
  | absent hproject => exact absurd hproject hname
  | whole _ hwhole =>
    cases htools : Value.lookup fields toolsKey with
    | none => rfl
    | some tools =>
      have hholds := Value.holds?_eq_some_false_iff.mpr (hwhole tools htools)
      dsimp only
      rw [Value.holds_eq_ok_iff.mpr hholds]
      rfl
  | tools hproject => exact absurd hproject hname
  | @search tools _ htools hshape hsearch =>
    rw [htools]
    dsimp only
    rcases hsearch with hnone | hnamed
    · rw [Value.holds_eq_error_iff.mpr ⟨hnone, rfl⟩]
      rfl
    · rw [Value.holds_eq_ok_iff.mpr (Value.holds?_eq_some_true_iff.mpr hnamed)]
      cases tools with
      | table inner => exact absurd rfl (hshape inner)
      | _ => rfl

theorem optionsValue_eq_iff {r : Except Fault Value} :
    optionsValue p fields = r ↔ OptionsAt p fields r := by
  unfold optionsValue
  split
  · rename_i hname
    exact ⟨fun h => h ▸ optionsAt_projectSection hname, projectSection_eq hname⟩
  · rename_i hname
    exact ⟨fun h => h ▸ optionsAt_ownSection hname, ownSection_eq hname⟩

theorem optionsAt_eq_of_section {inner options : List (Scalar × Value)} {r : Except Fault Value}
    (hname : p.name = projectFile) (htools : Value.lookup fields toolsKey = some (.table inner))
    (hoptions : Value.lookup inner sectionKey = some (.table options))
    (h : OptionsAt p fields r) : r = .ok (.table options) := by
  have hsection : OptionsAt p fields (.ok (.table options)) := .inner htools hoptions
  exact (projectSection_eq hname h).symm.trans (projectSection_eq hname hsection)

theorem name_join (folder : Path) (file : String) : (folder.join ⟨"", [file]⟩).name = file := by
  simp [Path.join, Path.isAbsolute, Path.name]

section
variable [Host]

/-- The ways in which the loading of a parsed file meets a fault. -/
inductive LoadFault (p : Path) (fields : List (Scalar × Value)) (fault : Fault) : Prop where
  | place : OptionsAt p fields (.error fault) → LoadFault p fields fault
  | options {v : Value} : OptionsAt p fields (.ok v) → SectionFault v fault →
      LoadFault p fields fault

theorem load_of_parse (hread : t.read p = .ok content)
    (hparse : Toml.parseBytes content = some (.table fields)) : load t p =
      (liftM (optionsValue p fields) >>= fun v => Options.ofValue v (some p.parent)) := by
  have hfields : (Value.table fields).fields = .ok fields := rfl
  rw [load, hread, liftM_fault_ok, pure_bind, hparse]
  dsimp only
  rw [hfields, liftM_fault_ok, pure_bind]
  unfold optionsValue
  split <;> rfl

theorem load_of_unparsed (hread : t.read p = .ok content)
    (hparse : Toml.parseBytes content = none) :
    load t p = .error (.cause (.declaration (.malformedConfiguration p.text))) := by
  rw [load, hread, liftM_fault_ok, pure_bind, hparse]
  rfl

theorem load_eq_fault_iff (hread : t.read p = .ok content)
    (hparse : Toml.parseBytes content = some (.table fields)) :
    load t p = .error (.fault fault) ↔ LoadFault p fields fault := by
  rw [load_of_parse hread hparse]
  simp only [bind_eq_error_iff, liftM_fault_eq_fault_iff, liftM_fault_eq_ok_iff,
    optionsValue_eq_iff, Options.ofValue_eq_fault_iff]
  constructor
  · rintro (hplace | ⟨v, hv, hfault⟩)
    · exact .place hplace
    · exact .options hv hfault
  · rintro (hplace | ⟨hv, hfault⟩)
    · exact Or.inl hplace
    · exact Or.inr ⟨_, hv, hfault⟩

theorem load_of_not_read {fault : Fault} (hread : t.read p = .error fault) :
    load t p = .error (.fault fault) := by
  rw [load, hread]
  rfl

/-- A fault of loading lies in what a file holds, if there is a file that can be read. -/
theorem load_eq_fault_iff_of_isFile (hfile : t.IsFile p) : load t p = .error (.fault fault) ↔
    (∀ content, t.read p ≠ .ok content) ∧ fault = .inaccessibleFile ∨
      ∃ content fields, t.read p = .ok content ∧
        Toml.parseBytes content = some (.table fields) ∧ LoadFault p fields fault := by
  constructor
  · intro h
    cases hread : t.read p with
    | error closed =>
      cases (load_of_not_read hread).symm.trans h
      exact Or.inl ⟨nofun, read_eq_error_of_isFile hfile hread⟩
    | ok content =>
      cases hparse : Toml.parseBytes content with
      | none => cases (load_of_unparsed hread hparse).symm.trans h
      | some document =>
        obtain ⟨fields, rfl⟩ := Catalog.exists_fields_of_parseBytes hparse
        exact Or.inr ⟨content, fields, rfl, hparse, (load_eq_fault_iff hread hparse).mp h⟩
  · rintro (⟨hclosed, rfl⟩ | ⟨content, fields, hread, hparse, hfault⟩)
    · cases hread : t.read p with
      | error fault => rw [load_of_not_read hread, read_eq_error_of_isFile hfile hread]
      | ok content => exact absurd hread (hclosed content)
    · exact (load_eq_fault_iff hread hparse).mpr hfault

theorem load_eq_cause (h : load t p = .error (.cause cause)) :
    cause = .declaration (.malformedConfiguration p.text) ∨ cause = .declaration .guardShape := by
  obtain ⟨content, hread⟩ : ∃ content, t.read p = .ok content := by
    cases hread : t.read p with
    | error fault => cases (load_of_not_read hread).symm.trans h
    | ok content => exact ⟨content, rfl⟩
  cases hparse : Toml.parseBytes content with
  | none =>
    cases (load_of_unparsed hread hparse).symm.trans h
    exact Or.inl rfl
  | some document =>
    obtain ⟨fields, rfl⟩ := Catalog.exists_fields_of_parseBytes hparse
    rw [load_of_parse hread hparse] at h
    rcases bind_eq_error_iff.mp h with h | ⟨_, _, h⟩
    · obtain ⟨_, _, ⟨⟩⟩ := mapError_eq_error_iff.mp h
    · exact Or.inr (Options.ofValue_eq_cause h)

theorem Uses.isFile {folder : Path} (h : Uses t folder p) : t.IsFile p := by
  cases h with
  | own hfile => exact hfile
  | project _ hproject => exact hproject.isFile

theorem Uses.isProject {folder : Path} (h : Uses t folder p) (hname : p.name = projectFile) :
    IsProject t p := by
  cases h with
  | own _ =>
    rw [ownPath, name_join] at hname
    exact absurd hname (by decide)
  | project _ hproject => exact hproject

theorem exists_uses_of_find (h : find t start = .ok (some p)) : ∃ folder, Uses t folder p := by
  obtain ⟨above, _, huses, _⟩ := (find_eq_some_iff h).mp rfl
  exact ⟨_, huses⟩

/-- Tools that hold the name of the section are read without a fault about tables only as tables all
the way down to the section. -/
theorem exists_section_of_not_loadFault {tools : Value} (hname : p.name = projectFile)
    (htools : Value.lookup fields toolsKey = some tools) (hnamed : tools.HoldsName sectionKey)
    (hno : ¬ LoadFault p fields .notTable) : ∃ inner options, tools = .table inner ∧
      Value.lookup inner sectionKey = some (.table options) := by
  cases tools with
  | table inner =>
    obtain ⟨v, hv⟩ : ∃ v, Value.lookup inner sectionKey = some v := by
      cases hnamed with
      | key hmem => exact Option.isSome_iff_exists.mp (Value.isSome_lookup_iff.mpr ⟨_, hmem⟩)
    by_cases hshape : ∃ options, v = .table options
    · obtain ⟨options, rfl⟩ := hshape
      exact ⟨inner, options, rfl, hv⟩
    · have hfault : SectionFault v .notTable := .shape fun options h => hshape ⟨options, h⟩
      exact absurd (.options (.inner htools hv) hfault) hno
  | _ => exact absurd (.place (.tools hname htools nofun)) hno

/-- The search accepts a project for any tools that hold the name of the section, while loading needs
tables all the way down to the section. -/
theorem not_loadFault_notTable_iff {tools : Value} (hname : p.name = projectFile)
    (htools : Value.lookup fields toolsKey = some tools) (hnamed : tools.HoldsName sectionKey) :
    ¬ LoadFault p fields .notTable ↔ ∃ inner options, tools = .table inner ∧
      Value.lookup inner sectionKey = some (.table options) := by
  refine ⟨exists_section_of_not_loadFault hname htools hnamed, ?_⟩
  rintro ⟨inner, options, rfl, hoptions⟩ (hplace | ⟨hv, hfault⟩)
  · cases optionsAt_eq_of_section hname htools hoptions hplace
  · cases optionsAt_eq_of_section hname htools hoptions hv
    rcases hfault with hshape | hoptions
    · exact hshape options rfl
    · rcases hoptions.isOfWriting with h | h <;> cases h

/-- A configuration file that the search finds is loaded or turned down with a cause about its form or
its guard, unless it may not be read or loading meets one of the faults that a parsed file can hold. A
project that is found is read as a table exactly when its tools are a table that has one under the
section. -/
theorem found_configuration_loads_iff (h : find t start = .ok (some p)) :
    (∀ fault, load t p = .error (.fault fault) ↔
      (∀ content, t.read p ≠ .ok content) ∧ fault = .inaccessibleFile ∨
        ∃ content fields, t.read p = .ok content ∧
          Toml.parseBytes content = some (.table fields) ∧ LoadFault p fields fault) ∧
    (∀ cause, load t p = .error (.cause cause) →
      cause = .declaration (.malformedConfiguration p.text) ∨
        cause = .declaration .guardShape) ∧
    (p.name = projectFile → ∃ content fields tools, t.read p = .ok content ∧
      Toml.parseBytes content = some (.table fields) ∧
      Value.lookup fields toolsKey = some tools ∧ tools.HoldsName sectionKey ∧
      (load t p ≠ .error (.fault .notTable) ↔ ∃ inner options, tools = .table inner ∧
        Value.lookup inner sectionKey = some (.table options))) := by
  obtain ⟨folder, huses⟩ := exists_uses_of_find h
  have hfile := huses.isFile
  refine ⟨fun fault => load_eq_fault_iff_of_isFile hfile, fun cause => load_eq_cause, ?_⟩
  intro hname
  obtain ⟨content, fields, tools, hread, hparse, htools, hnamed⟩ := huses.isProject hname
  refine ⟨content, fields, tools, hread, hparse, htools, hnamed, ?_⟩
  rw [ne_eq, load_eq_fault_iff hread hparse, not_loadFault_notTable_iff hname htools hnamed]

end

/-- A tree that holds one file at its top. -/
def treeWithFile (name text : String) : FileTree where
  nodes := [([name], .file text.toUTF8)]

attribute [local instance] Host.terminal

/-- A project with a number for a catalog, which loading passes over. -/
theorem found_project_loads :
    let t := treeWithFile projectFile "[tool.algagen]\ncatalog = 3\nguard = false\n"
    find t ⟨"", []⟩ = .ok (some ⟨"/", [projectFile]⟩) ∧
      load t ⟨"/", [projectFile]⟩ = .ok { guard := { enabled := false } } ∧
      ∃ content fields inner options, t.read ⟨"/", [projectFile]⟩ = .ok content ∧
        Toml.parseBytes content = some (.table fields) ∧
        Value.lookup fields toolsKey = some (.table inner) ∧
        Value.lookup inner sectionKey = some (.table options) := by
  intro t
  have hfind : find t ⟨"", []⟩ = .ok (some ⟨"/", [projectFile]⟩) := by decide +kernel
  have hload : load t ⟨"/", [projectFile]⟩ = .ok { guard := { enabled := false } } :=
    toOption_eq_some_iff.mp (by decide +kernel)
  obtain ⟨_, _, hproject⟩ := found_configuration_loads_iff hfind
  obtain ⟨content, fields, _, hread, hparse, htools, _, hshape⟩ := hproject rfl
  have hnot : load t ⟨"/", [projectFile]⟩ ≠ .error (.fault .notTable) := by
    rw [hload]
    nofun
  obtain ⟨inner, options, rfl, hoptions⟩ := hshape.mp hnot
  exact ⟨hfind, hload, content, fields, inner, options, hread, hparse, htools, hoptions⟩

theorem load_textAsTools :
    load (treeWithFile projectFile "tool = \"algagen\"\n") ⟨"/", [projectFile]⟩ =
      .error (.fault .notTable) := by
  obtain ⟨fields, hparse, htools⟩ := Catalog.exists_table_of_parse "tool = \"algagen\"\n"
    (fun fields => ((Value.lookup fields toolsKey).bind Value.text?) = some "algagen")
    (by decide +kernel)
  have hbytes := (Catalog.parseBytes_toUTF8 _).trans hparse
  obtain ⟨tools, htools, htext⟩ := Option.bind_eq_some_iff.mp (of_decide_eq_true htools)
  obtain rfl := Value.text?_eq_some_iff.mp htext
  exact (load_eq_fault_iff rfl hbytes).mpr (.place (.tools rfl htools nofun))

theorem load_numberAsTools :
    load (treeWithFile ownFile "tool = 3\n") ⟨"/", [ownFile]⟩ =
      .error (.fault .notSearchable) := by
  obtain ⟨fields, hparse, htools⟩ := Catalog.exists_table_of_parse "tool = 3\n"
    (fun fields => (Value.lookup fields toolsKey).any fun v => (v.holds? sectionKey).isNone)
    (by decide +kernel)
  have hbytes := (Catalog.parseBytes_toUTF8 _).trans hparse
  obtain ⟨tools, htools, hnone⟩ := (Option.any_eq_true _ _).mp htools
  have hnone := (Value.holds?_eq_none_iff sectionKey).mp (Option.isNone_iff_eq_none.mp hnone)
  obtain ⟨s, rfl, _⟩ := id hnone
  exact (load_eq_fault_iff rfl hbytes).mpr
    (.place (.search (by decide) htools nofun (Or.inl hnone)))

/-- A project whose tools are a text with the name of the section in it is found and ends the
loading, and so does a file of its own with a number in place of the tools. -/
theorem found_configurations_end_loading :
    find (treeWithFile projectFile "tool = \"algagen\"\n") ⟨"", []⟩ =
      .ok (some ⟨"/", [projectFile]⟩) ∧
    load (treeWithFile projectFile "tool = \"algagen\"\n") ⟨"/", [projectFile]⟩ =
      .error (.fault .notTable) ∧
    find (treeWithFile ownFile "tool = 3\n") ⟨"", []⟩ = .ok (some ⟨"/", [ownFile]⟩) ∧
    load (treeWithFile ownFile "tool = 3\n") ⟨"/", [ownFile]⟩ =
      .error (.fault .notSearchable) := by
  refine ⟨?_, load_textAsTools, ?_, load_numberAsTools⟩
  · decide +kernel
  · decide +kernel

end Configuration
end StructureDerive
