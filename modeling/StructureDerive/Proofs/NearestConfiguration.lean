import Mathlib.Algebra.GroupWithZero.Nat
import Mathlib.Data.List.Infix
import StructureDerive.Configuration.Loading
import StructureDerive.Host.Terminal
import StructureDerive.Proofs.FileLookup
import StructureDerive.Proofs.Search
import StructureDerive.Proofs.Table

/-! # The nearest configuration

The search goes up from a folder, one folder after the other, and ends at the first usable file.
Project files that are malformed or do not name the section are passed over. What can end the search
before that is a path that cannot be looked up, or a project file that may not be read.
-/
namespace StructureDerive
open Outcome

namespace Value

/-- A name is held as a key, as an item of a list, a tuple or a set, or as a part of a text. -/
inductive HoldsName (name : String) : Value → Prop where
  | key {fields : List (Scalar × Value)} {v : Value} : (.text name, v) ∈ fields →
      HoldsName name (.table fields)
  | item {items : List Value} : .text name ∈ items → HoldsName name (.list items)
  | place {items : List Value} : .text name ∈ items → HoldsName name (.tuple items)
  | member {items : List Scalar} : .text name ∈ items → HoldsName name (.set items)
  | part {s : String} : name.toList <:+: s.toList → HoldsName name (.text s)

theorem isSome_lookup_iff {fields : List (Scalar × Value)} {name : String} :
    (lookup fields name).isSome ↔ ∃ v, (.text name, v) ∈ fields := by
  constructor
  · intro h
    obtain ⟨v, hv⟩ := Option.isSome_iff_exists.mp h
    exact ⟨v, mem_of_lookup hv⟩
  · rintro ⟨v, hmem⟩
    rw [lookup, Option.isSome_map, List.find?_isSome]
    exact ⟨_, hmem, beq_self_eq_true _⟩

theorem any_text?_iff {items : List Value} {name : String} :
    (items.any (·.text? = some name)) ↔ .text name ∈ items := by
  simp only [List.any_eq_true, decide_eq_true_eq, text?_eq_some_iff, exists_eq_right]

theorem holds?_eq_some_true_iff {name : String} {v : Value} :
    v.holds? name = some true ↔ HoldsName name v := by
  unfold holds?
  split
  · rw [Option.some_inj, isSome_lookup_iff]
    exact ⟨fun ⟨v, hmem⟩ => .key hmem, fun | .key hmem => ⟨_, hmem⟩⟩
  · rw [Option.some_inj, any_text?_iff]
    exact ⟨.item, fun | .item hmem => hmem⟩
  · rw [Option.some_inj, any_text?_iff]
    exact ⟨.place, fun | .place hmem => hmem⟩
  · simp only [Option.some_inj, List.any_eq_true, decide_eq_true_eq, exists_eq_right]
    exact ⟨.member, fun | .member hmem => hmem⟩
  · rw [Option.some_inj, Text.occursIn_iff]
    exact ⟨.part, fun | .part hpart => hpart⟩
  · rename_i htable hlist htuple hset htext
    refine iff_of_false nofun ?_
    rintro (_ | _ | _ | _ | _)
    · exact htable _ rfl
    · exact hlist _ rfl
    · exact htuple _ rfl
    · exact hset _ rfl
    · exact htext _ rfl

/-- An absent value holds no name. -/
theorem holds?_getD_iff {value : Option Value} {name : String} :
    ((value.getD (.table [])).holds? name).getD false ↔
      ∃ v, value = some v ∧ v.HoldsName name := by
  cases value with
  | none =>
    have hempty : holds? name (.table []) = some false := rfl
    simp [hempty]
  | some v => simp [Option.getD_eq_iff, holds?_eq_some_true_iff]

end Value

namespace Configuration
open FileTree
variable {t : FileTree} {folder p q start : Path} {r : Option Path} {place above : List String}

def ownPath (folder : Path) : Path := folder.join ⟨"", [ownFile]⟩

def projectPath (folder : Path) : Path := folder.join ⟨"", [projectFile]⟩

/-- The paths that are looked up in a folder can be, and a project file that stands there can be
read. -/
structure IsSearchable (t : FileTree) (folder : Path) : Prop where
  own : t.IsReachable (ownPath folder)
  project : ¬ t.IsFile (ownPath folder) → t.IsReachable (projectPath folder)
  read : ¬ t.IsFile (ownPath folder) → t.IsFile (projectPath folder) →
    ∃ content, t.read (projectPath folder) = .ok content

theorem mem_foldersFrom_iff :
    folder ∈ foldersFrom ⟨"/", place⟩ ↔ ∃ above, above <+: place ∧ folder = ⟨"/", above⟩ := by
  simp only [foldersFrom, List.mem_map, List.mem_reverse, List.mem_range]
  constructor
  · rintro ⟨n, _, rfl⟩
    exact ⟨_, List.take_prefix n place, rfl⟩
  · rintro ⟨above, habove, rfl⟩
    have hlen := habove.length_le
    refine ⟨above.length, by omega, ?_⟩
    rw [← List.prefix_iff_eq_take.mp habove]

/-- The folders are gone through from the place upwards. -/
theorem pairwise_foldersFrom (place : List String) :
    (foldersFrom ⟨"/", place⟩).Pairwise fun a b => b.segments.length < a.segments.length := by
  rw [foldersFrom, List.pairwise_map, List.pairwise_reverse]
  refine List.pairwise_lt_range.imp_of_mem fun {m n} _ hn hlt => ?_
  rw [List.mem_range] at hn
  simp only [List.length_take] at hn ⊢
  omega

/-- What is gone through before a folder are the folders nearer to the place. -/
theorem mem_before_iff {before after : List Path} {x : Path}
    (h : foldersFrom ⟨"/", place⟩ = before ++ x :: after) : folder ∈ before ↔
      folder ∈ foldersFrom ⟨"/", place⟩ ∧ x.segments.length < folder.segments.length := by
  have hpairwise := pairwise_foldersFrom place
  rw [h, List.pairwise_append, List.pairwise_cons] at hpairwise
  obtain ⟨_, ⟨hafter, _⟩, hbefore⟩ := hpairwise
  constructor
  · intro hmem
    rw [h]
    exact ⟨List.mem_append_left _ hmem, hbefore _ hmem x List.mem_cons_self⟩
  · rintro ⟨hmem, hlt⟩
    rw [h, List.mem_append, List.mem_cons] at hmem
    rcases hmem with hmem | rfl | hmem
    · exact hmem
    · omega
    · have hgt := hafter folder hmem
      omega

/-- The folders before one on the way up are those that could be nearer. -/
theorem exists_cut_of_prefix (habove : above <+: place) :
    ∃ before after, foldersFrom ⟨"/", place⟩ = before ++ ⟨"/", above⟩ :: after ∧
      ∀ folder, folder ∈ before ↔ ∃ nearer, nearer <+: place ∧ above.length < nearer.length ∧
        folder = ⟨"/", nearer⟩ := by
  have hmem : (⟨"/", above⟩ : Path) ∈ foldersFrom ⟨"/", place⟩ :=
    mem_foldersFrom_iff.mpr ⟨above, habove, rfl⟩
  obtain ⟨before, after, h⟩ := List.append_of_mem hmem
  refine ⟨before, after, h, fun folder => ?_⟩
  rw [mem_before_iff h, mem_foldersFrom_iff]
  constructor
  · rintro ⟨⟨nearer, hnearer, rfl⟩, hlt⟩
    exact ⟨nearer, hnearer, hlt, rfl⟩
  · rintro ⟨nearer, hnearer, hlt, rfl⟩
    exact ⟨⟨nearer, hnearer, rfl⟩, hlt⟩

theorem eq_of_prefix_of_length_eq {nearer : List String} (habove : above <+: place)
    (hnearer : nearer <+: place) (hlen : above.length = nearer.length) : above = nearer := by
  rw [List.prefix_iff_eq_take.mp habove, List.prefix_iff_eq_take.mp hnearer, hlen]

/-- The bytes of some names with a slash in front of each of them but the first. -/
theorem utf8ByteSize_intercalate (names : List String) (name : String) :
    ("/".intercalate (names ++ [name])).utf8ByteSize =
      (names.map fun s => s.utf8ByteSize + 1).sum + name.utf8ByteSize := by
  have hslash : "/".utf8ByteSize = 1 := rfl
  induction names with
  | nil => simp
  | cons s names ih =>
    obtain ⟨x, xs, hxs⟩ := List.exists_cons_of_ne_nil (List.concat_ne_nil name names)
    rw [List.cons_append, hxs, String.intercalate_cons_cons, ← hxs, String.utf8ByteSize_append,
      String.utf8ByteSize_append, ih, hslash, List.map_cons, List.sum_cons]
    omega

/-- The path of the project file at a place, and each name of it, is short enough. -/
structure Fits (place : List String) : Prop where
  names : ∀ s ∈ place, s.utf8ByteSize ≤ nameLimit
  path : (projectPath ⟨"/", place⟩).text.utf8ByteSize ≤ pathLimit

theorem text_join (place : List String) (file : String) :
    (Path.join ⟨"/", place⟩ ⟨"", [file]⟩).text = "/" ++ "/".intercalate (place ++ [file]) := by
  simp [Path.join, Path.isAbsolute, Path.text]

theorem Fits.isReachable (h : Fits place) (habove : above <+: place) {file : String}
    (hfile : file = ownFile ∨ file = projectFile)
    (hopen : t.unreadable = []) : t.IsReachable (Path.join ⟨"/", above⟩ ⟨"", [file]⟩) := by
  have hshort : file.utf8ByteSize ≤ projectFile.utf8ByteSize ∧ file.utf8ByteSize ≤ nameLimit := by
    rcases hfile with rfl | rfl <;> decide
  obtain ⟨further, rfl⟩ := habove
  refine isReachable_of_sizes ?_ ?_ hopen
  · intro s hs
    have hs : s ∈ above ++ [file] := hs
    rcases List.mem_append.mp hs with hs | hs
    · exact h.names s (List.mem_append_left further hs)
    · rw [List.mem_singleton.mp hs]
      exact hshort.2
  · have hpath := h.path
    rw [projectPath, text_join, String.utf8ByteSize_append, utf8ByteSize_intercalate,
      List.map_append, List.sum_append] at hpath
    rw [text_join, String.utf8ByteSize_append, utf8ByteSize_intercalate]
    omega

theorem Fits.isSearchable (h : Fits place) (habove : above <+: place) (hopen : t.unreadable = []) :
    IsSearchable t ⟨"/", above⟩ := by
  refine ⟨h.isReachable habove (Or.inl rfl) hopen, fun _ =>
    h.isReachable habove (Or.inr rfl) hopen, fun _ ⟨l, content, hl, hnode⟩ => ?_⟩
  exact ⟨content, read_eq_ok_iff.mpr ⟨l, hl, hnode, hopen ▸ List.not_mem_nil⟩⟩

section
variable [Host]

/-- A project file that can be read and parsed, and whose tools hold the name of the section. -/
def IsProject (t : FileTree) (p : Path) : Prop :=
  ∃ content fields tools, t.read p = .ok content ∧
    Toml.parseBytes content = some (.table fields) ∧
    Value.lookup fields toolsKey = some tools ∧ tools.HoldsName sectionKey

/-- The file of a folder that is used. A project file is used in want of a file of its own. -/
inductive Uses (t : FileTree) (folder : Path) : Path → Prop where
  | own : t.IsFile (ownPath folder) → Uses t folder (ownPath folder)
  | project : ¬ t.IsFile (ownPath folder) → IsProject t (projectPath folder) →
      Uses t folder (projectPath folder)

/-- No folder between a place and a folder above it has a file to use. -/
def NoneNearer (t : FileTree) (place above : List String) : Prop :=
  ∀ nearer, nearer <+: place → above.length < nearer.length → ∀ p, ¬ Uses t ⟨"/", nearer⟩ p

/-- The file that is used in the nearest folder with such a file, at a place or above it. -/
def IsNearest (t : FileTree) (place : List String) (p : Path) : Prop :=
  ∃ above, above <+: place ∧ Uses t ⟨"/", above⟩ p ∧ NoneNearer t place above

theorem isProject_iff_of_parse {content : ByteArray} {fields : List (Scalar × Value)}
    (hread : t.read p = .ok content) (hparse : Toml.parseBytes content = some (.table fields)) :
    IsProject t p ↔
      ∃ tools, Value.lookup fields toolsKey = some tools ∧ tools.HoldsName sectionKey := by
  constructor
  · rintro ⟨content', fields', tools, hread', hparse', htools⟩
    cases hread.symm.trans hread'
    cases hparse.symm.trans hparse'
    exact ⟨tools, htools⟩
  · rintro ⟨tools, htools⟩
    exact ⟨content, fields, tools, hread, hparse, htools⟩

theorem namesSection_of_read {content : ByteArray} (hread : t.read p = .ok content) :
    ∃ names, namesSection t p = .ok names ∧ (names ↔ IsProject t p) := by
  unfold namesSection
  rw [hread]
  simp only [bind, Except.bind]
  split
  · rename_i fields hparse
    refine ⟨_, rfl, ?_⟩
    rw [isProject_iff_of_parse hread hparse]
    exact Value.holds?_getD_iff
  · rename_i hparse
    refine ⟨false, rfl, iff_of_false nofun ?_⟩
    rintro ⟨content', fields, _, hread', hparse', _⟩
    cases hread.symm.trans hread'
    exact hparse fields hparse'

theorem IsProject.isFile (h : IsProject t p) : t.IsFile p := by
  obtain ⟨content, _, _, hread, _⟩ := h
  exact isFile_of_read hread

theorem inFolder_eq (t : FileTree) (folder : Path) : inFolder t folder =
    (t.isFile (ownPath folder) >>= fun own =>
      if own then .ok (some (ownPath folder))
      else t.isFile (projectPath folder) >>= fun project =>
        if project then namesSection t (projectPath folder) >>= fun names =>
          if names then .ok (some (projectPath folder)) else .ok none
        else .ok none) := rfl

theorem inFolder_of_uses (hsearch : IsSearchable t folder) (h : Uses t folder p) :
    inFolder t folder = .ok (some p) := by
  cases h with
  | own hown =>
    rw [inFolder_eq, isFile_eq_true hown]
    rfl
  | project hown hproject =>
    obtain ⟨content, hread⟩ := hsearch.read hown hproject.isFile
    obtain ⟨names, hnames, hiff⟩ := namesSection_of_read hread
    rw [inFolder_eq, isFile_eq_false hsearch.own hown, isFile_eq_true hproject.isFile]
    simp [bind, Except.bind, hnames, hiff.mpr hproject]

theorem inFolder_of_not_uses (hsearch : IsSearchable t folder) (h : ∀ p, ¬ Uses t folder p) :
    inFolder t folder = .ok none := by
  have hown : ¬ t.IsFile (ownPath folder) := fun hown => h _ (.own hown)
  rw [inFolder_eq, isFile_eq_false hsearch.own hown]
  by_cases hfile : t.IsFile (projectPath folder)
  · obtain ⟨content, hread⟩ := hsearch.read hown hfile
    obtain ⟨names, hnames, hiff⟩ := namesSection_of_read hread
    have hnot : names = false :=
      Bool.eq_false_iff.mpr fun hnames => h _ (.project hown (hiff.mp hnames))
    rw [isFile_eq_true hfile]
    simp [bind, Except.bind, hnames, hnot]
  · rw [isFile_eq_false (hsearch.project hown) hfile]
    simp [bind, Except.bind]

theorem namesSection_of_not_read (hfile : t.IsFile p) (h : ∀ content, t.read p ≠ .ok content) :
    namesSection t p = .error .inaccessibleFile := by
  cases hread : t.read p with
  | ok content => exact absurd hread (h content)
  | error fault =>
    rw [namesSection, hread, read_eq_error_of_isFile hfile hread]
    rfl

theorem inFolder_of_not_isSearchable (h : ¬ IsSearchable t folder) :
    inFolder t folder = .error .inaccessibleFile := by
  by_cases hown : t.IsReachable (ownPath folder)
  · have hnone : ¬ t.IsFile (ownPath folder) := fun hfile =>
      h ⟨hown, fun hnone => absurd hfile hnone, fun hnone => absurd hfile hnone⟩
    by_cases hproject : t.IsReachable (projectPath folder)
    · have hclosed : ¬ (t.IsFile (projectPath folder) →
          ∃ content, t.read (projectPath folder) = .ok content) := fun hread =>
        h ⟨hown, fun _ => hproject, fun _ => hread⟩
      obtain ⟨hfile, hread⟩ := Classical.not_imp.mp hclosed
      rw [inFolder_eq, isFile_eq_false hown hnone, isFile_eq_true hfile]
      simp [bind, Except.bind, namesSection_of_not_read hfile (not_exists.mp hread)]
    · rw [inFolder_eq, isFile_eq_false hown hnone, isFile_eq_error hproject]
      rfl
  · rw [inFolder_eq, isFile_eq_error hown]
    rfl

theorem Uses.unique (h : Uses t folder p) (h' : Uses t folder q) : p = q := by
  cases h with
  | own hfile =>
    cases h' with
    | own => rfl
    | project hnone => exact absurd hfile hnone
  | project hnone =>
    cases h' with
    | own hfile => exact absurd hfile hnone
    | project => rfl

theorem inFolder_eq_some_iff :
    inFolder t folder = .ok (some p) ↔ IsSearchable t folder ∧ Uses t folder p := by
  refine ⟨fun h => ?_, fun ⟨hsearch, hp⟩ => inFolder_of_uses hsearch hp⟩
  by_cases hsearch : IsSearchable t folder
  · by_cases huses : ∃ q, Uses t folder q
    · obtain ⟨q, hq⟩ := huses
      rw [inFolder_of_uses hsearch hq] at h
      cases h
      exact ⟨hsearch, hq⟩
    · rw [inFolder_of_not_uses hsearch fun q hq => huses ⟨q, hq⟩] at h
      cases h
  · rw [inFolder_of_not_isSearchable hsearch] at h
    cases h

theorem inFolder_eq_none_iff :
    inFolder t folder = .ok none ↔ IsSearchable t folder ∧ ∀ p, ¬ Uses t folder p := by
  refine ⟨fun h => ?_, fun ⟨hsearch, hnone⟩ => inFolder_of_not_uses hsearch hnone⟩
  by_cases hsearch : IsSearchable t folder
  · refine ⟨hsearch, fun p hp => ?_⟩
    cases h.symm.trans (inFolder_of_uses hsearch hp)
  · cases h.symm.trans (inFolder_of_not_isSearchable hsearch)

theorem inFolder_isOk_iff : (∃ r, inFolder t folder = .ok r) ↔ IsSearchable t folder := by
  constructor
  · rintro ⟨r, h⟩
    cases r with
    | none => exact (inFolder_eq_none_iff.mp h).1
    | some p => exact (inFolder_eq_some_iff.mp h).1
  · intro hsearch
    by_cases huses : ∃ p, Uses t folder p
    · obtain ⟨p, hp⟩ := huses
      exact ⟨_, inFolder_of_uses hsearch hp⟩
    · exact ⟨_, inFolder_of_not_uses hsearch fun p hp => huses ⟨p, hp⟩⟩

theorem IsNearest.unique (hp : IsNearest t place p) (hq : IsNearest t place q) : p = q := by
  obtain ⟨above, habove, hp, hnone⟩ := hp
  obtain ⟨above', habove', hq, hnone'⟩ := hq
  rcases lt_trichotomy above.length above'.length with hlt | hlen | hlt
  · exact absurd hq (hnone above' habove' hlt q)
  · obtain rfl := eq_of_prefix_of_length_eq habove habove' hlen
    exact hp.unique hq
  · exact absurd hp (hnone' above habove hlt p)

/-- The walk up from a place gives the file of a folder when it passes over all nearer ones. -/
theorem walk_eq_some_iff : (foldersFrom ⟨"/", place⟩).findSomeM? (inFolder t) = .ok (some p) ↔
    ∃ above, above <+: place ∧ IsSearchable t ⟨"/", above⟩ ∧ Uses t ⟨"/", above⟩ p ∧
      ∀ nearer, nearer <+: place → above.length < nearer.length →
        IsSearchable t ⟨"/", nearer⟩ ∧ ∀ q, ¬ Uses t ⟨"/", nearer⟩ q := by
  rw [findSomeM?_eq_some_iff]
  constructor
  · rintro ⟨before, x, after, hcut, hbefore, hx⟩
    have hmem : x ∈ foldersFrom ⟨"/", place⟩ := by simp [hcut]
    obtain ⟨above, habove, rfl⟩ := mem_foldersFrom_iff.mp hmem
    obtain ⟨hsearch, hp⟩ := inFolder_eq_some_iff.mp hx
    refine ⟨above, habove, hsearch, hp, fun nearer hnearer hlt => ?_⟩
    have hpassed := (mem_before_iff hcut).mpr ⟨mem_foldersFrom_iff.mpr ⟨nearer, hnearer, rfl⟩, hlt⟩
    exact inFolder_eq_none_iff.mp (hbefore _ hpassed)
  · rintro ⟨above, habove, hsearch, hp, hnone⟩
    obtain ⟨before, after, hcut, hbefore⟩ := exists_cut_of_prefix habove
    refine ⟨before, _, after, hcut, fun folder hfolder => ?_, inFolder_of_uses hsearch hp⟩
    obtain ⟨nearer, hnearer, hlt, rfl⟩ := (hbefore folder).mp hfolder
    exact inFolder_eq_none_iff.mpr (hnone nearer hnearer hlt)

theorem walk_eq_none_iff : (foldersFrom ⟨"/", place⟩).findSomeM? (inFolder t) = .ok none ↔
    ∀ above, above <+: place → IsSearchable t ⟨"/", above⟩ ∧ ∀ p, ¬ Uses t ⟨"/", above⟩ p := by
  simp only [findSomeM?_eq_none_iff, mem_foldersFrom_iff, inFolder_eq_none_iff]
  constructor
  · intro h above habove
    exact h _ ⟨above, habove, rfl⟩
  · rintro h _ ⟨above, habove, rfl⟩
    exact h above habove

/-- The walk ends in a result as long as each folder that it comes to can be searched. -/
theorem walk_isOk_iff : (∃ r, (foldersFrom ⟨"/", place⟩).findSomeM? (inFolder t) = .ok r) ↔
    ∀ above, above <+: place → NoneNearer t place above → IsSearchable t ⟨"/", above⟩ := by
  constructor
  · rintro ⟨r, hr⟩ above habove hnone
    cases r with
    | none => exact (walk_eq_none_iff.mp hr above habove).1
    | some p =>
      obtain ⟨found, hfound, hsearch, hp, hpassed⟩ := walk_eq_some_iff.mp hr
      rcases lt_trichotomy above.length found.length with hlt | hlen | hlt
      · exact absurd hp (hnone found hfound hlt p)
      · exact eq_of_prefix_of_length_eq habove hfound hlen ▸ hsearch
      · exact (hpassed above habove hlt).1
  · intro h
    cases hwalk : (foldersFrom ⟨"/", place⟩).findSomeM? (inFolder t) with
    | ok r => exact ⟨r, rfl⟩
    | error fault =>
      obtain ⟨before, x, after, hcut, hbefore, hx⟩ := findSomeM?_eq_error_iff.mp hwalk
      have hmem : x ∈ foldersFrom ⟨"/", place⟩ := by simp [hcut]
      obtain ⟨above, habove, rfl⟩ := mem_foldersFrom_iff.mp hmem
      have hnone : NoneNearer t place above := by
        intro nearer hnearer hlt
        have hpassed :=
          (mem_before_iff hcut).mpr ⟨mem_foldersFrom_iff.mpr ⟨nearer, hnearer, rfl⟩, hlt⟩
        exact (inFolder_eq_none_iff.mp (hbefore _ hpassed)).2
      obtain ⟨r, hr⟩ := inFolder_isOk_iff.mpr (h above habove hnone)
      cases hx.symm.trans hr

theorem find_eq_ok_iff : find t start = .ok r ↔ IsNameable start ∧
    (foldersFrom ⟨"/", t.placeOf start⟩).findSomeM? (inFolder t) = .ok r := by
  rw [find, bind_eq_ok_iff]
  simp only [resolve_eq_ok_iff]
  constructor
  · rintro ⟨_, ⟨hnameable, rfl⟩, h⟩
    exact ⟨hnameable, h⟩
  · rintro ⟨hnameable, h⟩
    exact ⟨_, ⟨hnameable, rfl⟩, h⟩

theorem find_eq_some_iff (h : find t start = .ok r) :
    r = some p ↔ IsNearest t (t.placeOf start) p := by
  have hwalk := (find_eq_ok_iff.mp h).2
  have hnearest : ∀ {q}, r = some q → IsNearest t (t.placeOf start) q := by
    rintro q rfl
    obtain ⟨above, habove, _, hq, hpassed⟩ := walk_eq_some_iff.mp hwalk
    exact ⟨above, habove, hq, fun nearer hnearer hlt => (hpassed nearer hnearer hlt).2⟩
  refine ⟨hnearest, fun hp => ?_⟩
  cases r with
  | some q => exact congrArg some ((hnearest rfl).unique hp)
  | none =>
    obtain ⟨above, habove, huses, _⟩ := hp
    exact absurd huses ((walk_eq_none_iff.mp hwalk above habove).2 p)

theorem find_eq_none_iff (h : find t start = .ok r) :
    r = none ↔ ∀ above, above <+: t.placeOf start → ∀ p, ¬ Uses t ⟨"/", above⟩ p := by
  have hwalk := (find_eq_ok_iff.mp h).2
  constructor
  · rintro rfl above habove
    exact (walk_eq_none_iff.mp hwalk above habove).2
  · intro hnone
    cases r with
    | none => rfl
    | some p =>
      obtain ⟨above, habove, huses, _⟩ := (find_eq_some_iff h).mp rfl
      exact absurd huses (hnone above habove p)

/-- The search for a configuration has a result exactly when the start can be named and each folder
from there on can be searched, up to the first one with a file to use. The result is then the file of
the nearest such folder, and none if there is no such folder. Short paths in a tree without closed
files or folders are enough for a result. -/
theorem find_nearest_iff (t : FileTree) (start : Path) :
    ((∃ r, find t start = .ok r) ↔ IsNameable start ∧ ∀ above, above <+: t.placeOf start →
      NoneNearer t (t.placeOf start) above → IsSearchable t ⟨"/", above⟩) ∧
    (∀ r, find t start = .ok r → (∀ p, r = some p ↔ IsNearest t (t.placeOf start) p) ∧
      (r = none ↔ ∀ above, above <+: t.placeOf start → ∀ p, ¬ Uses t ⟨"/", above⟩ p)) ∧
    (IsNameable start → Fits (t.placeOf start) → t.unreadable = [] →
      ∃ r, find t start = .ok r) := by
  have htotal : (∃ r, find t start = .ok r) ↔ IsNameable start ∧ ∀ above,
      above <+: t.placeOf start → NoneNearer t (t.placeOf start) above →
        IsSearchable t ⟨"/", above⟩ := by
    simp only [find_eq_ok_iff, exists_and_left, walk_isOk_iff]
  refine ⟨htotal, fun r h => ⟨fun p => find_eq_some_iff h, find_eq_none_iff h⟩, ?_⟩
  intro hnameable hfits hopen
  exact htotal.mpr ⟨hnameable, fun above habove _ => hfits.isSearchable habove hopen⟩

end

attribute [local instance] Host.terminal

/-- A malformed project file below one that names the section in a text, and a file at the top. -/
def nestedTree : FileTree where
  nodes := [(["algagen.toml"], .file ByteArray.empty),
    (["a"], .folder), (["a", "pyproject.toml"], .file "tool = \"my algagen\"\n".toUTF8),
    (["a", "b"], .folder), (["a", "b", "pyproject.toml"], .file "=\n".toUTF8)]

/-- The malformed file is passed over, and the file at the top is farther away. -/
theorem find_nearest_of_nested :
    let start : Path := ⟨"", ["a", "b"]⟩
    IsNameable start ∧ Fits (nestedTree.placeOf start) ∧
      find nestedTree start = .ok (some ⟨"/", ["a", "pyproject.toml"]⟩) ∧
      IsNearest nestedTree ["a", "b"] ⟨"/", ["a", "pyproject.toml"]⟩ ∧
      nestedTree.IsFile ⟨"/", ["algagen.toml"]⟩ := by
  intro start
  have hnameable : IsNameable start := by simp [IsNameable, start]
  have hfits : Fits (nestedTree.placeOf start) := ⟨by decide, by decide⟩
  have hfind : find nestedTree start = .ok (some ⟨"/", ["a", "pyproject.toml"]⟩) := by
    decide +kernel
  obtain ⟨_, hresult, hshort⟩ := find_nearest_iff nestedTree start
  obtain ⟨r, hr⟩ := hshort hnameable hfits rfl
  obtain rfl := Except.ok.inj (hr.symm.trans hfind)
  exact ⟨hnameable, hfits, hr, ((hresult _ hr).1 _).mp rfl, isFile_of_read rfl⟩

/-- The names of 17 nested folders, each of them short enough. -/
def deepPlace : List String := List.replicate 17 (String.ofList (List.replicate 254 'd'))

/-- A file at the top of the tree, next to some folders. -/
def treeWithFolders (folders : List Location) : FileTree where
  nodes := ([ownFile], .file ByteArray.empty) :: folders.map fun l => (l, .folder)

theorem eq_of_isFile_treeWithFolders {folders : List Location} {file : String}
    (hup : ".." ∉ above ++ [file])
    (h : (treeWithFolders folders).IsFile (Path.join ⟨"/", above⟩ ⟨"", [file]⟩)) :
    above ++ [file] = [ownFile] := by
  obtain ⟨l, content, hl, hnode⟩ := h
  obtain rfl : l = above ++ [file] := locate_eq_ok hup hl
  have hmem := mem_nodes_of_node? hnode
  simp [treeWithFolders] at hmem
  simp [hmem.1]

theorem eq_of_mem_deepPlace {name : String} (h : name ∈ deepPlace) :
    name = String.ofList (List.replicate 254 'd') := (List.mem_replicate.mp h).2

theorem not_mem_deepPlace : ".." ∉ deepPlace := by
  intro h
  exact absurd (eq_of_mem_deepPlace h) (by decide +kernel)

theorem nul_not_mem_deepPlace {name : String} (h : name ∈ deepPlace) : '\x00' ∉ name.toList := by
  rw [eq_of_mem_deepPlace h, String.toList_ofList, List.mem_replicate]
  exact fun hnul => absurd hnul.2 (by decide)

theorem not_isReachable_deepPlace (t : FileTree) : ¬ t.IsReachable (ownPath ⟨"/", deepPlace⟩) := by
  refine not_isReachable_of_size ?_ ?_
  · intro s hs
    have hs : s ∈ deepPlace ++ [ownFile] := hs
    rcases List.mem_append.mp hs with hs | hs
    · exact nul_not_mem_deepPlace hs
    · rw [List.mem_singleton.mp hs]
      decide
  · rw [ownPath, text_join, String.utf8ByteSize_append, utf8ByteSize_intercalate, deepPlace,
      List.map_replicate, List.sum_replicate_nat]
    decide +kernel

theorem placeOf_deepPlace (folders : List Location) :
    (treeWithFolders folders).placeOf ⟨"", deepPlace⟩ = deepPlace :=
  placeOf_eq not_mem_deepPlace

theorem find_deepPlace (folders : List Location) :
    find (treeWithFolders folders) ⟨"", deepPlace⟩ = .error .inaccessibleFile := by
  have hresolve := resolve_eq_ok_iff.mpr
    ⟨fun _ hs => nul_not_mem_deepPlace hs, congrArg (Path.mk "/") (placeOf_deepPlace folders).symm⟩
  have hsearch : ¬ IsSearchable (treeWithFolders folders) ⟨"/", deepPlace⟩ := fun h =>
    not_isReachable_deepPlace _ h.own
  obtain ⟨before, after, hcut, hbefore⟩ := exists_cut_of_prefix deepPlace.prefix_rfl
  refine bind_eq_error_iff.mpr (Or.inr ⟨_, hresolve, findSomeM?_eq_error_iff.mpr ?_⟩)
  refine ⟨before, _, after, hcut, fun folder hfolder => ?_, inFolder_of_not_isSearchable hsearch⟩
  obtain ⟨nearer, hnearer, hlt, _⟩ := (hbefore folder).mp hfolder
  have hle := hnearer.length_le
  omega

theorem isNearest_deepPlace (folders : List Location) :
    IsNearest (treeWithFolders folders) deepPlace ⟨"/", [ownFile]⟩ := by
  have hnone : ∀ above, above <+: deepPlace → 0 < above.length → ∀ file, file ≠ ".." →
      ¬ (treeWithFolders folders).IsFile (Path.join ⟨"/", above⟩ ⟨"", [file]⟩) := by
    intro above habove hlen file hfile h
    have hup : ".." ∉ above ++ [file] := by
      rw [List.mem_append, List.mem_singleton]
      rintro (hmem | heq)
      · exact not_mem_deepPlace (habove.subset hmem)
      · exact hfile heq.symm
    have hplace := congrArg List.length (eq_of_isFile_treeWithFolders hup h)
    rw [List.length_append, List.length_singleton, List.length_singleton] at hplace
    omega
  refine ⟨[], List.nil_prefix, .own (isFile_of_read rfl), fun nearer hnearer hlt p hp => ?_⟩
  cases hp with
  | own hfile => exact hnone nearer hnearer hlt ownFile (by decide) hfile
  | project _ hproject => exact hnone nearer hnearer hlt projectFile (by decide) hproject.isFile

/-- From 17 folders down, the search fails with a file at the top, whether the folders are there or
not. -/
theorem deep_start_ends_search :
    (find (treeWithFolders []) ⟨"", deepPlace⟩ = .error .inaccessibleFile ∧
      IsNearest (treeWithFolders []) ((treeWithFolders []).placeOf ⟨"", deepPlace⟩)
        ⟨"/", [ownFile]⟩) ∧
    find (treeWithFolders deepPlace.inits.tail) ⟨"", deepPlace⟩ = .error .inaccessibleFile ∧
      IsNearest (treeWithFolders deepPlace.inits.tail)
        ((treeWithFolders deepPlace.inits.tail).placeOf ⟨"", deepPlace⟩) ⟨"/", [ownFile]⟩ := by
  rw [placeOf_deepPlace, placeOf_deepPlace]
  exact ⟨⟨find_deepPlace _, isNearest_deepPlace _⟩, find_deepPlace _, isNearest_deepPlace _⟩

end Configuration
end StructureDerive
