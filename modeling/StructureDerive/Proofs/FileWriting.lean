import StructureDerive.Files.Tree
import StructureDerive.Proofs.Outcome

/-! # What a written file changes

A file is written into a folder that is there, never in place of a folder. So no path leads anywhere
else afterwards, a file that may be read is read back as it was written, and nothing else has changed.
-/
namespace StructureDerive.FileTree
open Outcome
variable {t t' : FileTree} {l l' : Location} {p : Path} {content old : ByteArray} {n : Node}

/-- A tree that holds a file at a path and is another tree everywhere else. -/
structure Replaced (t : FileTree) (p : Path) (content : ByteArray) (t' : FileTree) : Prop where
  working : t'.working = t.working
  unreadable : t'.unreadable = t.unreadable
  unwritable : t'.unwritable = t.unwritable
  located : t'.locate p = t.locate p
  written : ∃ l, t.locate p = .ok l ∧ t'.node? l = some (.file content)
  others : ∀ l, t.locate p ≠ .ok l → t'.node? l = t.node? l

/-- The file at a path may be written, if a path leads to it. -/
def AllowsWriting (t : FileTree) (p : Path) : Prop := ∀ l, t.locate p = .ok l → l ∉ t.unwritable

/-- Every node stands in a folder. -/
def IsRooted (t : FileTree) : Prop := ∀ entry ∈ t.nodes, t.isFolderAt entry.1.dropLast

theorem find?_replaced (nodes : List (Location × Node)) (n : Node)
    (h : ∃ entry ∈ nodes, entry.1 = l) :
    (nodes.map fun entry => if entry.1 = l then (l, n) else entry).find? (·.1 = l) =
      some (l, n) := by
  induction nodes with
  | nil => simp at h
  | cons entry rest ih =>
    by_cases hl : entry.1 = l
    · simp [hl]
    · have hrest : ∃ entry ∈ rest, entry.1 = l := by
        obtain ⟨found, hfound, heq⟩ := h
        rcases List.mem_cons.mp hfound with rfl | hfound
        · exact absurd heq hl
        · exact ⟨found, hfound, heq⟩
      simpa [hl] using ih hrest

theorem find?_kept (nodes : List (Location × Node)) (n : Node) (h : l' ≠ l) :
    (nodes.map fun entry => if entry.1 = l then (l, n) else entry).find? (·.1 = l') =
      nodes.find? (·.1 = l') := by
  induction nodes with
  | nil => rfl
  | cons entry rest ih =>
    by_cases hl : entry.1 = l
    · simpa [hl, Ne.symm h] using ih
    · by_cases hl' : entry.1 = l'
      · simp [hl', h]
      · simp [hl, hl', ih]

theorem node?_put_self (hl : l ≠ []) (t : FileTree) (n : Node) : (t.put l n).node? l = some n := by
  rw [node?, if_neg hl, put]
  split
  · rename_i hmem
    have hentry : ∃ entry ∈ t.nodes, entry.1 = l := by simpa using hmem
    rw [find?_replaced t.nodes n hentry, Option.map_some]
  · rename_i hmem
    have hnone : t.nodes.find? (·.1 = l) = none := by
      rw [List.find?_eq_none]
      intro entry hentry heq
      exact hmem (List.any_eq_true.mpr ⟨entry, hentry, heq⟩)
    simp [hnone]

theorem node?_put_of_ne (h : l' ≠ l) (t : FileTree) (n : Node) :
    (t.put l n).node? l' = t.node? l' := by
  rw [node?, node?, put]
  split
  · rfl
  · split
    · rw [find?_kept t.nodes n h]
    · simp [Ne.symm h]

theorem working_put (t : FileTree) (l : Location) (n : Node) : (t.put l n).working = t.working := by
  rw [put]
  split <;> rfl

theorem unreadable_put (t : FileTree) (l : Location) (n : Node) :
    (t.put l n).unreadable = t.unreadable := by
  rw [put]
  split <;> rfl

theorem unwritable_put (t : FileTree) (l : Location) (n : Node) :
    (t.put l n).unwritable = t.unwritable := by
  rw [put]
  split <;> rfl

/-- A file in place of a file, or of nothing, makes no folder and takes none away. -/
theorem isFolderAt_put (hl : l ≠ []) (hfolder : t.isFolderAt l = false) (content : ByteArray)
    (l' : Location) : (t.put l (.file content)).isFolderAt l' = t.isFolderAt l' := by
  by_cases h : l' = l
  · subst h
    rw [hfolder, isFolderAt, node?_put_self hl]
  · rw [isFolderAt, isFolderAt, node?_put_of_ne h]

theorem locate_put (hl : l ≠ []) (hfolder : t.isFolderAt l = false) (content : ByteArray)
    (p : Path) : (t.put l (.file content)).locate p = t.locate p := by
  have hstep : (t.put l (.file content)).step = t.step := by
    funext l' segment
    rw [step, step, isFolderAt_put hl hfolder, unreadable_put]
  rw [locate, locate, hstep, startOf, startOf, working_put]

theorem ne_nil_of_isFolderAt (h : t.isFolderAt l = false) : l ≠ [] := by
  rintro rfl
  simp [isFolderAt, node?] at h

theorem write_eq_ok_iff : t.write p content = .ok t' ↔ ∃ l, t.locate p = .ok l ∧
    t.isFolderAt l = false ∧ t.isFolderAt l.dropLast ∧ t.mayWrite l ∧
      t' = t.put l (.file content) := by
  unfold write
  simp only [bind_eq_ok_iff, mapError_eq_ok_iff]
  constructor
  · rintro ⟨l, hl, h⟩
    split at h
    · cases h
    · rename_i hplace
      simp only [Bool.or_eq_true, Bool.not_eq_true', not_or, Bool.not_eq_true, Bool.not_eq_false]
        at hplace
      cases h
      exact ⟨l, hl, hplace.1.1, hplace.1.2, hplace.2, rfl⟩
  · rintro ⟨l, hl, hfolder, hparent, hmay, rfl⟩
    exact ⟨l, hl, by simp [hfolder, hparent, hmay, pure, Except.pure]⟩

/-- What is written to a path stands there, and that is all that changes. -/
theorem replaced_of_write (h : t.write p content = .ok t') : t.Replaced p content t' := by
  obtain ⟨l, hl, hfolder, _, _, rfl⟩ := write_eq_ok_iff.mp h
  have hne := ne_nil_of_isFolderAt hfolder
  refine ⟨working_put t l _, unreadable_put t l _, unwritable_put t l _,
    locate_put hne hfolder content p, ⟨l, hl, node?_put_self hne t _⟩, ?_⟩
  intro l' hl'
  refine node?_put_of_ne ?_ t _
  rintro rfl
  exact hl' hl

theorem read_eq_ok_iff : t.read p = .ok content ↔
    ∃ l, t.locate p = .ok l ∧ t.node? l = some (.file content) ∧ l ∉ t.unreadable := by
  unfold read
  simp only [bind_eq_ok_iff, mapError_eq_ok_iff]
  refine exists_congr fun l => and_congr_right fun _ => ?_
  cases hnode : t.node? l with
  | none => simp [throw_ne_ok]
  | some n =>
    cases n with
    | folder => simp [throw_ne_ok]
    | file found =>
      by_cases hmem : l ∈ t.unreadable
      · simp [hmem, throw_ne_ok]
      · simp [hmem, pure, Except.pure]

/-- A file that could be read before is read back as it was written. -/
theorem Replaced.read (h : t.Replaced p content t') (hread : t.read p = .ok old) :
    t'.read p = .ok content := by
  obtain ⟨l, hl, hnode⟩ := h.written
  obtain ⟨l', hl', _, hreadable⟩ := read_eq_ok_iff.mp hread
  obtain rfl : l = l' := Except.ok.inj (hl.symm.trans hl')
  exact read_eq_ok_iff.mpr ⟨l, h.located.trans hl, hnode, h.unreadable ▸ hreadable⟩

theorem mayWrite_of_node? (h : t.node? l = some n) : t.mayWrite l ↔ l ∉ t.unwritable := by
  simp [mayWrite, h]

/-- A file that can be read is written exactly when it may be. -/
theorem write_of_read (hrooted : t.IsRooted) (h : t.read p = .ok old) (content : ByteArray) :
    (t.AllowsWriting p → ∃ t', t.write p content = .ok t') ∧
    (¬ t.AllowsWriting p → t.write p content = .error .inaccessibleFile) := by
  obtain ⟨l, hl, hnode, _⟩ := read_eq_ok_iff.mp h
  have hne : l ≠ [] := by
    rintro rfl
    simp [node?] at hnode
  have hfolder : t.isFolderAt l = false := by rw [isFolderAt, hnode]
  have hparent : t.isFolderAt l.dropLast := by
    rw [node?, if_neg hne] at hnode
    obtain ⟨entry, hentry, _⟩ := Option.map_eq_some_iff.mp hnode
    have hlocation : entry.1 = l := by simpa using List.find?_some hentry
    rw [← hlocation]
    exact hrooted entry (List.mem_of_find?_eq_some hentry)
  have hallows : t.AllowsWriting p ↔ t.mayWrite l := by
    simp [AllowsWriting, hl, mayWrite_of_node? hnode]
  rw [hallows]
  constructor
  · intro hmay
    exact ⟨_, write_eq_ok_iff.mpr ⟨l, hl, hfolder, hparent, hmay, rfl⟩⟩
  · intro hmay
    rw [Bool.not_eq_true] at hmay
    rw [write, hl]
    simp [Except.mapError, bind, Except.bind, hfolder, hparent, hmay, throw, throwThe,
      MonadExceptOf.throw]

/-- What is made of the tree after a write is made of it if the file may be written. -/
theorem map_write_of_read {α : Type} (hrooted : t.IsRooted) (h : t.read p = .ok old)
    (content : ByteArray) (f : FileTree → α) :
    (¬ t.AllowsWriting p → (t.write p content).map f = .error .inaccessibleFile) ∧
    (t.AllowsWriting p → ∃ t', (t.write p content).map f = .ok (f t') ∧
      t.Replaced p content t') := by
  obtain ⟨hwritten, hdenied⟩ := write_of_read hrooted h content
  refine ⟨fun hallows => ?_, fun hallows => ?_⟩
  · rw [hdenied hallows]
    rfl
  · obtain ⟨t', ht'⟩ := hwritten hallows
    rw [ht']
    exact ⟨t', rfl, replaced_of_write ht'⟩

end StructureDerive.FileTree
