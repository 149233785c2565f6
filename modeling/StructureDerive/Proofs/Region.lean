import StructureDerive.Generation.Region
import StructureDerive.Proofs.Outcome
import StructureDerive.Proofs.Search

/-! # Regeneration keeps hand-written text

An update writes both markers again and free of generated ones between them, so that the next update
finds the same region. What stands around it is fixed by the first update and kept by all others.
-/
namespace StructureDerive.Region
open Text (IsFirst)
variable {text before middle after generated : String}

def Holds (text marker : String) : Prop := marker.toList <:+: text.toList

instance (text marker : String) : Decidable (Holds text marker) :=
  inferInstanceAs (Decidable (_ <:+: _))

/-- A text around its first start marker and the first end marker after that. -/
structure Parts (text before middle after : String) : Prop where
  text_eq : text = before ++ startMarker ++ middle ++ endMarker ++ after
  start_first : IsFirst startMarker.toList before.toList
  end_first : IsFirst endMarker.toList middle.toList

/-- The first start marker has an end marker after it. -/
theorem exists_parts {rest : String} (htext : text = before ++ startMarker ++ rest)
    (hstart : IsFirst startMarker.toList before.toList) (hend : Holds rest endMarker) :
    ∃ middle after, Parts text before middle after := by
  obtain ⟨middle, after, hrest, hfirst⟩ := Text.exists_isFirst_of_infix hend
  refine ⟨String.ofList middle, String.ofList after, ?_, hstart, by simpa using hfirst⟩
  have hofList : rest = String.ofList middle ++ endMarker ++ String.ofList after := by
    rw [← String.toList_inj]
    simpa using hrest
  rw [htext, hofList]
  simp only [String.append_assoc]

theorem Parts.splitAtFirst_start (h : Parts text before middle after) :
    Text.splitAtFirst startMarker.toList text.toList =
      some (before.toList, (middle ++ endMarker ++ after).toList) := by
  rw [Text.splitAtFirst_eq_some_iff]
  exact ⟨by simp [h.text_eq], h.start_first⟩

theorem Parts.splitAtFirst_end (h : Parts text before middle after) :
    Text.splitAtFirst endMarker.toList (middle ++ endMarker ++ after).toList =
      some (middle.toList, after.toList) := by
  rw [Text.splitAtFirst_eq_some_iff]
  exact ⟨by simp, h.end_first⟩

theorem hasMarkers_iff : hasMarkers text ↔ Holds text startMarker ∧ Holds text endMarker := by
  simp [hasMarkers, Text.occursIn_iff, Holds]

/-- An update of a text with a region replaces the region and nothing else. -/
theorem update_of_parts (h : Parts text before middle after) (generated : String) :
    update text generated = .ok (before ++ block generated ++ after) := by
  have hstart : Holds text startMarker :=
    ⟨before.toList, (middle ++ endMarker ++ after).toList, by simp [h.text_eq]⟩
  have hend : Holds text endMarker :=
    ⟨(before ++ startMarker ++ middle).toList, after.toList, by simp [h.text_eq]⟩
  rw [update, if_pos (hasMarkers_iff.mpr ⟨hstart, hend⟩), replace, h.splitAtFirst_start]
  simp only [h.splitAtFirst_end, String.ofList_toList]

/-- What a text without a start marker has in front of the region that is put at its end. -/
def lead (text : String) : String :=
  if Text.allBlank text then "" else Text.stripRight text ++ "\n\n"

theorem update_of_not_holds (h : ¬ Holds text startMarker) (generated : String) :
    update text generated = .ok (lead text ++ block generated ++ "\n") := by
  have hmarkers : ¬ hasMarkers text := fun hm => h (hasMarkers_iff.mp hm).1
  rw [update, if_neg hmarkers, append, lead]
  split
  · rw [String.empty_append]
  · rfl

/-- Whether a text can be updated does not depend on what is put into it. -/
theorem update_isOk {updated : String} (h : update text generated = .ok updated) (other : String) :
    ∃ updated', update text other = .ok updated' := by
  unfold update replace at h ⊢
  split
  · rename_i hmarkers
    rw [if_pos hmarkers] at h
    split
    · rename_i hstart
      rw [hstart] at h
      cases h
    · rename_i before rest hstart
      rw [hstart] at h
      dsimp only at h
      split
      · rename_i hend
        rw [hend] at h
        cases h
      · exact ⟨_, rfl⟩
  · exact ⟨_, rfl⟩

/-- The middle that an update writes has no end marker of its own, not even at its seams. -/
theorem parts_update (hstart : IsFirst startMarker.toList before.toList)
    (hgenerated : ¬ Holds generated endMarker) :
    Parts (before ++ block generated ++ after) before
      ("\n" ++ Text.stripRight generated ++ "\n") after := by
  refine ⟨by simp only [block, String.append_assoc], hstart, ?_⟩
  have hbreak : '\n' ∉ endMarker.toList := by decide
  have hmiddle : ¬ endMarker.toList <:+: '\n' :: Text.trimRight generated.toList := by
    intro h
    rcases Text.infix_append_cons (u := []) hbreak h with h | h
    · exact absurd (List.eq_nil_of_infix_nil h) (by decide)
    · exact hgenerated (h.trans (Text.trimRight_prefix _).isInfix)
  have hfirst := Text.isFirst_append_singleton hbreak hmiddle
  simpa [Text.stripRight] using hfirst

/-- The region at the end of a text starts with the first start marker of the result. -/
theorem isFirst_lead (h : ¬ Holds text startMarker) :
    IsFirst startMarker.toList (lead text).toList := by
  rw [lead]
  split
  · exact Text.isFirst_nil _
  · have hbreak : '\n' ∉ startMarker.toList := by decide
    have hstripped : ¬ startMarker.toList <:+: Text.trimRight text.toList ++ '\n' :: [] := by
      intro hin
      rcases Text.infix_append_cons hbreak hin with hin | hin
      · exact h (hin.trans (Text.trimRight_prefix _).isInfix)
      · exact absurd (List.eq_nil_of_infix_nil hin) (by decide)
    have hfirst := Text.isFirst_append_singleton hbreak hstripped
    simpa [Text.stripRight] using hfirst

/-- Whatever a text is updated with, the same text stays around the region. -/
structure Framed (text before after : String) : Prop where
  start_first : IsFirst startMarker.toList before.toList
  update_eq : ∀ generated, update text generated = .ok (before ++ block generated ++ after)

theorem framed_of_parts (h : Parts text before middle after) : Framed text before after :=
  ⟨h.start_first, update_of_parts h⟩

theorem framed_of_not_holds (h : ¬ Holds text startMarker) : Framed text (lead text) "\n" :=
  ⟨isFirst_lead h, update_of_not_holds h⟩

/-- A run of updates keeps the frame of the first text, and only the last block is left. -/
theorem Framed.foldlM_update (h : Framed text before after) {gs : List String} (hgs : gs ≠ [])
    (hfree : ∀ g ∈ gs, ¬ Holds g endMarker) :
    gs.foldlM update text = .ok (before ++ block (gs.getLast hgs) ++ after) := by
  induction gs generalizing text with
  | nil => exact absurd rfl hgs
  | cons g gs ih =>
    rw [List.foldlM_cons, h.update_eq]
    cases gs with
    | nil => rfl
    | cons g' gs =>
      have hnext : Framed (before ++ block g ++ after) before after :=
        framed_of_parts (parts_update h.start_first (hfree g List.mem_cons_self))
      rw [List.getLast_cons (List.cons_ne_nil g' gs)]
      exact ih hnext (List.cons_ne_nil g' gs) fun p hp => hfree p (List.mem_cons_of_mem _ hp)

theorem exists_framed (htext : ¬ Holds text startMarker ∨ ∃ before rest,
      text = before ++ startMarker ++ rest ∧ IsFirst startMarker.toList before.toList ∧
        Holds rest endMarker) : ∃ before after, Framed text before after := by
  rcases htext with h | ⟨before, rest, htext, hstart, hend⟩
  · exact ⟨_, _, framed_of_not_holds h⟩
  · obtain ⟨middle, after, hparts⟩ := exists_parts htext hstart hend
    exact ⟨before, after, framed_of_parts hparts⟩

/-- Any number of regenerations gives what the last one alone gives. Text around an old region is
left untouched, and a text without a region keeps all but its trailing blanks in front of a new one.
Only an end marker in generated code could break this. -/
theorem foldlM_update_eq_last (htext : ¬ Holds text startMarker ∨ ∃ before rest,
      text = before ++ startMarker ++ rest ∧ IsFirst startMarker.toList before.toList ∧
        Holds rest endMarker)
    {gs : List String} (hgs : gs ≠ []) (hfree : ∀ g ∈ gs, ¬ Holds g endMarker) :
    (∃ result, gs.foldlM update text = .ok result ∧ update text (gs.getLast hgs) = .ok result) ∧
    (∀ before middle after, Parts text before middle after →
      update text (gs.getLast hgs) = .ok (before ++ block (gs.getLast hgs) ++ after)) ∧
    (¬ Holds text startMarker → update text (gs.getLast hgs) = .ok (if Text.allBlank text
      then block (gs.getLast hgs) ++ "\n"
      else Text.stripRight text ++ "\n\n" ++ block (gs.getLast hgs) ++ "\n")) := by
  obtain ⟨before, after, hframed⟩ := exists_framed htext
  refine ⟨⟨_, hframed.foldlM_update hgs hfree, hframed.update_eq _⟩, ?_, ?_⟩
  · intro _ _ _ hparts
    exact update_of_parts hparts _
  · intro h
    rw [update_of_not_holds h, lead]
    split
    · rw [String.empty_append]
    · rfl

theorem foldlM_update_around_division :
    let before := "// </algagen>\nfn divide() {}\n"
    let after := "\nfn multiply() {}// </algagen>"
    let text := before ++ startMarker ++ "\nold\n" ++ endMarker ++ after
    let gs := ["impl Loop for W {}\n", "impl Group for W {}\n\n"]
    Parts text before "\nold\n" after ∧ (∀ g ∈ gs, ¬ Holds g endMarker) ∧
      gs.foldlM update text = .ok (before ++ block "impl Group for W {}\n\n" ++ after) := by
  intro before after text gs
  have hstart : Text.splitAtFirst startMarker.toList (before ++ startMarker).toList =
      some (before.toList, []) := by decide +kernel
  have hend : Text.splitAtFirst endMarker.toList ("\nold\n" ++ endMarker).toList =
      some ("\nold\n".toList, []) := by decide +kernel
  have hparts : Parts text before "\nold\n" after :=
    ⟨rfl, Text.isFirst_of_splitAtFirst hstart, Text.isFirst_of_splitAtFirst hend⟩
  have hfree : ∀ g ∈ gs, ¬ Holds g endMarker := by decide +kernel
  have hrest : Holds ("\nold\n" ++ endMarker ++ after) endMarker := by decide +kernel
  have htext : text = before ++ startMarker ++ ("\nold\n" ++ endMarker ++ after) := by
    simp only [text, String.append_assoc]
  obtain ⟨⟨_, hfold, hlast⟩, hregion, _⟩ := foldlM_update_eq_last
    (Or.inr ⟨before, _, htext, hparts.start_first, hrest⟩) (List.cons_ne_nil _ _ : gs ≠ []) hfree
  exact ⟨hparts, hfree, hfold.trans (hlast.symm.trans (hregion _ _ _ hparts))⟩

end StructureDerive.Region
