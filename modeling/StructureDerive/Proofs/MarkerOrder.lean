import Mathlib.Data.List.Infix
import StructureDerive.Proofs.DanglingMarker

/-! # Markers in the wrong order

Both markers are looked for in the whole text, but the end marker is needed after the first start
marker. An update fails where it stands before the start marker alone. The two markers share no
characters at their seams, so every other end marker stands on one side of the start marker, and an
update finds its region or puts one at the end.
-/
namespace StructureDerive.Region
open Text (IsFirst)
variable {text before rest generated : String}

/-- No end of an end marker starts a start marker. -/
theorem not_prefix_startMarker {t : List Char} (ht : t <:+ endMarker.toList) (hne : t ≠ []) :
    ¬ t <+: startMarker.toList := by
  have hall : ∀ t ∈ endMarker.toList.tails, t ≠ [] → ¬ t <+: startMarker.toList := by
    simp [startMarker, endMarker]
  exact hall t ((List.mem_tails _ _).mpr ht) hne

/-- No beginning of an end marker ends a start marker, whose last character it does not hold. -/
theorem not_suffix_startMarker {s : List Char} (hs : s <+: endMarker.toList) (hne : s ≠ []) :
    ¬ s <:+ startMarker.toList := by
  intro hsuffix
  have hlast : s.getLast hne = 'd' := by
    rw [hsuffix.getLast hne]
    exact (List.getLast_eq_iff_getLast?_eq_some _).mpr getLast?_startMarker
  have hmem : 'd' ∈ endMarker.toList := by
    rw [← hlast]
    exact hs.subset (List.getLast_mem hne)
  simp [endMarker] at hmem

theorem holds_end_iff : Holds (before ++ startMarker ++ rest) endMarker ↔
    Holds before endMarker ∨ Holds rest endMarker := by
  have hrest : endMarker.toList <:+: startMarker.toList ++ rest.toList ↔
      endMarker.toList <:+: startMarker.toList ∨ endMarker.toList <:+: rest.toList := by
    apply Text.infix_append_iff_of_seam
    intro s t hst hsne _ hs _
    exact not_suffix_startMarker ⟨t, hst.symm⟩ hsne hs
  have hwhole : endMarker.toList <:+: before.toList ++ (startMarker.toList ++ rest.toList) ↔
      endMarker.toList <:+: before.toList ∨
        endMarker.toList <:+: startMarker.toList ++ rest.toList := by
    apply Text.infix_append_iff_of_seam
    intro s t hst _ htne _ ht
    have hlong : t.length ≤ startMarker.toList.length := by
      have hsum := congrArg List.length hst
      have hshorter : endMarker.toList.length ≤ startMarker.toList.length := by
        simp [startMarker, endMarker]
      rw [List.length_append] at hsum
      omega
    have hprefix : t <+: startMarker.toList :=
      List.prefix_of_prefix_length_le ht (List.prefix_append _ _) hlong
    exact not_prefix_startMarker ⟨s, hst.symm⟩ htne hprefix
  have hlist : (before ++ startMarker ++ rest).toList =
      before.toList ++ (startMarker.toList ++ rest.toList) := by simp
  rw [Holds, hlist, hwhole, hrest]
  simp [not_infix_startMarker, Holds]

/-- All end markers stand before the first start marker. -/
def EndsBeforeStart (text : String) : Prop :=
  ∃ before rest, text = before ++ startMarker ++ rest ∧ IsFirst startMarker.toList before.toList ∧
    Holds before endMarker ∧ ¬ Holds rest endMarker

theorem update_of_endsBeforeStart (h : EndsBeforeStart text) (generated : String) :
    update text generated = .error .endBeforeStart := by
  obtain ⟨before, rest, htext, hfirst, hbefore, hrest⟩ := h
  have hstart : Holds text startMarker := ⟨before.toList, rest.toList, by simp [htext]⟩
  have hend : Holds text endMarker := by
    rw [htext]
    exact holds_end_iff.mpr (Or.inl hbefore)
  have hsplit : Text.splitAtFirst startMarker.toList text.toList =
      some (before.toList, rest.toList) :=
    Text.splitAtFirst_eq_some_iff.mpr ⟨by simp [htext], hfirst⟩
  have hnone : Text.splitAtFirst endMarker.toList rest.toList = none := by
    have hnot : ¬ Text.occursIn endMarker.toList rest.toList := fun h =>
      hrest (Text.occursIn_iff.mp h)
    simpa [Text.occursIn] using hnot
  rw [update, if_pos (hasMarkers_iff.mpr ⟨hstart, hend⟩), replace, hsplit]
  simp only [hnone]

theorem holds_block (before generated after : String) :
    Holds (before ++ block generated ++ after) (block generated) :=
  ⟨before.toList, after.toList, by simp⟩

theorem exists_update_of_not_endsBeforeStart (h : ¬ EndsBeforeStart text) (generated : String) :
    ∃ result, update text generated = .ok result ∧ Holds result (block generated) := by
  by_cases hstart : Holds text startMarker
  · obtain ⟨before, rest, hlist, hfirst⟩ := Text.exists_isFirst_of_infix hstart
    have htext : text = String.ofList before ++ startMarker ++ String.ofList rest := by
      rw [← String.toList_inj, hlist]
      simp
    have hfirst : IsFirst startMarker.toList (String.ofList before).toList := by simpa using hfirst
    by_cases hrest : Holds (String.ofList rest) endMarker
    · obtain ⟨middle, after, hparts⟩ := exists_parts htext hfirst hrest
      exact ⟨_, update_of_parts hparts generated, holds_block _ generated after⟩
    · have hbefore : ¬ Holds (String.ofList before) endMarker := fun hbefore =>
        h ⟨_, _, htext, hfirst, hbefore, hrest⟩
      have hend : ¬ Holds text endMarker := by
        rw [htext, holds_end_iff]
        exact not_or.mpr ⟨hbefore, hrest⟩
      exact ⟨_, update_of_dangling htext hend generated, holds_block _ generated "\n"⟩
  · exact ⟨_, update_of_not_holds hstart generated, holds_block _ generated "\n"⟩

/-- An update gives a text with the new region, unless all end markers stand before the first start
marker: then it fails, whatever is generated. -/
theorem update_total_iff (text generated : String) :
    (EndsBeforeStart text ∧ update text generated = .error .endBeforeStart) ∨
      (¬ EndsBeforeStart text ∧
        ∃ result, update text generated = .ok result ∧ Holds result (block generated)) := by
  by_cases h : EndsBeforeStart text
  · exact Or.inl ⟨h, update_of_endsBeforeStart h generated⟩
  · exact Or.inr ⟨h, exists_update_of_not_endsBeforeStart h generated⟩

/-- An end marker that is left over from a region in front of a new start marker. -/
theorem update_fails_after_stray_end :
    let text := endMarker ++ "\nfn helper() {}\n" ++ startMarker ++ "\n"
    ¬ ∃ result, update text "impl Loop for W {}\n" = .ok result := by
  intro text
  have hsplit : Text.splitAtFirst startMarker.toList
      (endMarker ++ "\nfn helper() {}\n" ++ startMarker).toList =
        some ((endMarker ++ "\nfn helper() {}\n").toList, []) := by
    simp [startMarker, endMarker, Text.splitAtFirst]
  have hafter : ¬ Holds "\n" endMarker := by simp [Holds, endMarker, List.infix_cons_iff]
  have hends : EndsBeforeStart text :=
    ⟨endMarker ++ "\nfn helper() {}\n", "\n", rfl, Text.isFirst_of_splitAtFirst hsplit,
      ⟨[], "\nfn helper() {}\n".toList, by simp⟩, hafter⟩
  rintro ⟨result, hresult⟩
  rw [update_of_endsBeforeStart hends] at hresult
  cases hresult

end StructureDerive.Region
