import StructureDerive.Proofs.FileWriting

/-! # Looking files up

A path is looked up segment by segment, whether what stands there may be read or not. Only a path
that is too long, in its whole or in one of its names, and one through a folder that may not be
entered cannot be looked up at all, and a path without `..` leads to the place that it names.
-/
namespace StructureDerive.FileTree
open Outcome
variable {t : FileTree} {p : Path}

/-- A file stands at the path, which need not be readable. -/
def IsFile (t : FileTree) (p : Path) : Prop :=
  ∃ l content, t.locate p = .ok l ∧ t.node? l = some (.file content)

/-- Neither the whole path nor a name that is looked up on the way is too long, and every folder on
the way may be entered. -/
structure IsReachable (t : FileTree) (p : Path) : Prop where
  short : t.locate p ≠ .error .tooLong
  entered : t.locate p ≠ .error .denied

theorem isFile_of_read {content : ByteArray} (h : t.read p = .ok content) : t.IsFile p := by
  obtain ⟨l, hl, hnode, _⟩ := read_eq_ok_iff.mp h
  exact ⟨l, content, hl, hnode⟩

/-- Only permission is missing for a file that cannot be read. -/
theorem read_eq_error_of_isFile (h : t.IsFile p) {fault : Fault} (hread : t.read p = .error fault) :
    fault = .inaccessibleFile := by
  obtain ⟨l, content, hl, hnode⟩ := h
  unfold read at hread
  rw [hl] at hread
  simp only [Except.mapError, bind, Except.bind, hnode] at hread
  split at hread <;> cases hread
  rfl

theorem isFile_eq_true (h : t.IsFile p) : t.isFile p = .ok true := by
  obtain ⟨l, content, hl, hfile⟩ := h
  rw [isFile, lookup, hl]
  dsimp only
  rw [hfile]
  rfl

theorem isFile_eq_false (hreach : t.IsReachable p) (h : ¬ t.IsFile p) :
    t.isFile p = .ok false := by
  unfold isFile lookup
  cases hl : t.locate p with
  | error problem =>
    cases problem with
    | tooLong => exact absurd hl hreach.short
    | denied => exact absurd hl hreach.entered
    | noFolder => rfl
    | nul => rfl
  | ok l =>
    dsimp only
    cases hnode : t.node? l with
    | none => rfl
    | some node =>
      cases node with
      | folder => rfl
      | file content => exact absurd ⟨l, content, hl, hnode⟩ h

theorem isFile_eq_error (h : ¬ t.IsReachable p) :
    t.isFile p = .error .inaccessibleFile := by
  have hlocate : t.locate p = .error .tooLong ∨ t.locate p = .error .denied :=
    or_iff_not_and_not.mpr fun hneither => h ⟨hneither.1, hneither.2⟩
  rw [isFile, lookup]
  rcases hlocate with hl | hl <;> rw [hl] <;> rfl

/-- A path without NULs in it. -/
def IsNameable (p : Path) : Prop := ∀ segment ∈ p.segments, '\x00' ∉ segment.toList

theorem foldlM_step_eq_error {l : Location} {segments : List String} {problem : PathProblem}
    (h : segments.foldlM t.step l = .error problem) :
    problem = .noFolder ∨ (problem = .denied ∧ t.unreadable ≠ []) ∨
      problem = .tooLong ∧ ∃ s ∈ segments, nameLimit < s.utf8ByteSize := by
  induction segments generalizing l with
  | nil => cases h
  | cons s segments ih =>
    rw [List.foldlM_cons] at h
    rcases bind_eq_error_iff.mp h with h | ⟨next, _, h⟩
    · unfold step at h
      split at h
      · cases h
        exact Or.inl rfl
      · split at h
        · rename_i hclosed
          cases h
          exact Or.inr (Or.inl ⟨rfl, List.ne_nil_of_mem (List.contains_iff_mem.mp hclosed)⟩)
        · split at h
          · rename_i hlong
            cases h
            exact Or.inr (Or.inr ⟨rfl, s, List.mem_cons_self, hlong⟩)
          · cases h
    · exact (ih h).imp_right <| Or.imp_right fun ⟨hlong, x, hx, hsize⟩ =>
        ⟨hlong, x, List.mem_cons_of_mem s hx, hsize⟩

/-- Without `..` a path leads to where it says. -/
theorem foldlM_step_eq_ok {l l' : Location} {segments : List String} (hup : ".." ∉ segments)
    (h : segments.foldlM t.step l = .ok l') : l' = l ++ segments := by
  induction segments generalizing l with
  | nil =>
    cases h
    simp
  | cons s segments ih =>
    rw [List.mem_cons, not_or] at hup
    obtain ⟨hs, hup⟩ := hup
    rw [List.foldlM_cons] at h
    obtain ⟨next, hnext, h⟩ := bind_eq_ok_iff.mp h
    unfold step at hnext
    split at hnext
    · cases hnext
    · split at hnext
      · cases hnext
      · split at hnext
        · cases hnext
        · rw [if_neg (Ne.symm hs)] at hnext
          cases hnext
          rw [ih hup h, List.append_assoc, List.singleton_append]

theorem locate_eq_ok {l : Location} (hup : ".." ∉ p.segments) (h : t.locate p = .ok l) :
    l = t.startOf p ++ p.segments := by
  unfold locate at h
  split at h
  · cases h
  · split at h
    · cases h
    · exact foldlM_step_eq_ok hup h

theorem mem_nodes_of_node? {l : Location} {content : ByteArray}
    (h : t.node? l = some (.file content)) : (l, .file content) ∈ t.nodes := by
  unfold node? at h
  split at h
  · cases h
  · obtain ⟨⟨l', node⟩, hentry, rfl⟩ := Option.map_eq_some_iff.mp h
    have hplace := List.find?_some hentry
    obtain rfl : l' = l := of_decide_eq_true hplace
    exact List.mem_of_find?_eq_some hentry

theorem any_nul_iff : (p.segments.any fun s => s.toList.contains '\x00') ↔ ¬ IsNameable p := by
  simp [IsNameable]

theorem locate_eq_nul_iff : t.locate p = .error .nul ↔ ¬ IsNameable p := by
  rw [← any_nul_iff]
  unfold locate
  split
  · rename_i hnul
    exact iff_of_true rfl hnul
  · rename_i hnul
    refine iff_of_false ?_ hnul
    split
    · nofun
    · intro h
      rcases foldlM_step_eq_error h with h | ⟨h, _⟩ | ⟨h, _⟩ <;> cases h

/-- A path is reachable if it is short enough as a whole and so are all its names, and every folder
may be entered. -/
theorem isReachable_of_sizes (hnames : ∀ s ∈ p.segments, s.utf8ByteSize ≤ nameLimit)
    (hpath : p.text.utf8ByteSize ≤ pathLimit) (hopen : t.unreadable = []) : t.IsReachable p := by
  have hlocate : ∀ problem, t.locate p = .error problem → problem = .nul ∨ problem = .noFolder := by
    intro problem h
    unfold locate at h
    split at h
    · cases h
      exact Or.inl rfl
    · rw [if_neg (Nat.not_lt.mpr hpath)] at h
      rcases foldlM_step_eq_error h with h | ⟨_, hclosed⟩ | ⟨_, s, hs, hlong⟩
      · exact Or.inr h
      · exact absurd hopen hclosed
      · have hshort := hnames s hs
        omega
  constructor
  · exact fun h => by rcases hlocate _ h with h | h <;> cases h
  · exact fun h => by rcases hlocate _ h with h | h <;> cases h

theorem not_isReachable_of_size (hnameable : IsNameable p) (hpath : pathLimit < p.text.utf8ByteSize) :
    ¬ t.IsReachable p := by
  intro h
  refine h.short ?_
  rw [locate, if_neg fun hnul => any_nul_iff.mp hnul hnameable, if_pos hpath]

theorem placeOf_eq (hup : ".." ∉ p.segments) : t.placeOf p = t.startOf p ++ p.segments := by
  have hfold : ∀ (segments : List String) (l : Location), ".." ∉ segments →
      segments.foldl (fun l s => if s = ".." then l.dropLast else l ++ [s]) l = l ++ segments := by
    intro segments
    induction segments with
    | nil => simp
    | cons s segments ih =>
      intro l hup
      rw [List.mem_cons, not_or] at hup
      obtain ⟨hs, hup⟩ := hup
      rw [List.foldl_cons, if_neg (Ne.symm hs), ih _ hup, List.append_assoc, List.singleton_append]
  exact hfold _ _ hup

theorem resolve_eq_ok_iff {place : Path} :
    t.resolve p = .ok place ↔ IsNameable p ∧ place = ⟨"/", t.placeOf p⟩ := by
  unfold resolve
  split
  · rename_i hnul
    exact iff_of_false nofun fun h => locate_eq_nul_iff.mp hnul h.1
  · rename_i hnul
    have hnameable : IsNameable p := not_not.mp fun h => hnul (locate_eq_nul_iff.mpr h)
    rw [Except.ok.injEq]
    exact ⟨fun h => ⟨hnameable, h.symm⟩, fun h => h.2.symm⟩

end StructureDerive.FileTree
