import StructureDerive.Text.Blank
import StructureDerive.Text.Search

/-! # What a search finds

A search stops at the first occurrence of a text and at no other one. An occurrence never reaches
over a character that the text does not hold, so that such a character keeps two searches apart.
-/
namespace StructureDerive.Text
variable {needle text before after u v : List Char} {x : Char}

/-- The text after `before` occurs there for the first time, overlaps with `before` included. -/
def IsFirst (needle before : List Char) : Prop :=
  ∀ b t, before ++ needle = b ++ needle ++ t → t = []

theorem isFirst_nil (needle : List Char) : IsFirst needle [] := by
  intro b t h
  have hlen := congrArg List.length h
  simp only [List.length_append, List.length_nil] at hlen
  exact List.length_eq_zero_iff.mp (by omega)

theorem IsFirst.tail {c : Char} (h : IsFirst needle (c :: before)) : IsFirst needle before := by
  intro b t heq
  exact h (c :: b) t (by simp [heq])

theorem IsFirst.not_prefix {c : Char} (h : IsFirst needle (c :: before)) :
    ¬ needle <+: c :: (before ++ needle ++ after) := by
  intro hp
  have hshort : needle <+: c :: before ++ needle := by
    refine List.prefix_of_prefix_length_le hp ⟨after, by simp⟩ ?_
    simp only [List.length_append]
    omega
  obtain ⟨t, ht⟩ := hshort
  have hnil := h [] t ht.symm
  have hlen := congrArg List.length ht
  simp only [hnil, List.length_append, List.length_cons, List.length_nil] at hlen
  omega

theorem splitAtFirst_append (h : IsFirst needle before) (after : List Char) :
    splitAtFirst needle (before ++ needle ++ after) = some (before, after) := by
  induction before with
  | nil =>
    cases hn : needle ++ after with
    | nil =>
      obtain ⟨rfl, rfl⟩ := List.append_eq_nil_iff.mp hn
      rfl
    | cons c rest =>
      have hp : needle.isPrefixOf (c :: rest) := by simp [← hn]
      rw [List.nil_append, hn, splitAtFirst, if_pos hp, ← hn, List.drop_left]
  | cons c before ih =>
    rw [List.cons_append, List.cons_append, splitAtFirst, if_neg, ih h.tail]
    · rfl
    · rw [List.isPrefixOf_iff_prefix]
      exact h.not_prefix

theorem isFirst_of_splitAtFirst (h : splitAtFirst needle text = some (before, after)) :
    IsFirst needle before := by
  induction text generalizing before after with
  | nil =>
    obtain ⟨_, rfl, _⟩ : needle.isEmpty ∧ [] = before ∧ [] = after := by
      simpa [splitAtFirst] using h
    exact isFirst_nil needle
  | cons c rest ih =>
    have htext := append_of_splitAtFirst h
    rw [splitAtFirst] at h
    split at h
    · cases h
      exact isFirst_nil needle
    · rename_i hp
      obtain ⟨⟨b, a⟩, hs, hb⟩ := Option.map_eq_some_iff.mp h
      cases hb
      intro d t heq
      cases d with
      | nil =>
        refine absurd (List.isPrefixOf_iff_prefix.mpr ⟨t ++ after, ?_⟩) hp
        rw [htext, heq]
        simp
      | cons c' d =>
        rw [List.cons_append, List.cons_append, List.cons_append] at heq
        exact ih hs d t (List.cons.inj heq).2

/-- A search succeeds with what stands around the first occurrence. -/
theorem splitAtFirst_eq_some_iff : splitAtFirst needle text = some (before, after) ↔
    text = before ++ needle ++ after ∧ IsFirst needle before := by
  constructor
  · intro h
    exact ⟨append_of_splitAtFirst h, isFirst_of_splitAtFirst h⟩
  · rintro ⟨rfl, h⟩
    exact splitAtFirst_append h after

/-- A search fails only where nothing is to be found. -/
theorem occursIn_iff : occursIn needle text ↔ needle <:+: text := by
  unfold occursIn
  induction text with
  | nil => cases needle <;> simp [splitAtFirst]
  | cons c rest ih =>
    rw [List.infix_cons_iff, ← List.isPrefixOf_iff_prefix, ← ih, splitAtFirst]
    split
    · rename_i hp
      simp [hp]
    · rename_i hp
      simp [hp]

theorem exists_isFirst_of_infix (h : needle <:+: text) :
    ∃ before after, text = before ++ needle ++ after ∧ IsFirst needle before := by
  obtain ⟨⟨before, after⟩, hsplit⟩ := Option.isSome_iff_exists.mp (occursIn_iff.mpr h)
  exact ⟨before, after, splitAtFirst_eq_some_iff.mp hsplit⟩

/-- What stands after another occurrence stands after the first one, too. -/
theorem IsFirst.suffix (h : IsFirst needle before)
    (heq : u ++ needle ++ v = before ++ needle ++ after) : v <:+ after := by
  rcases Nat.le_total v.length after.length with hle | hle
  · exact List.suffix_of_suffix_length_le ⟨u ++ needle, heq⟩ ⟨before ++ needle, rfl⟩ hle
  · have hlen := congrArg List.length heq
    simp only [List.length_append] at hlen
    obtain ⟨t, ht⟩ : u ++ needle <+: before ++ needle := by
      refine List.prefix_of_prefix_length_le ⟨v, heq⟩ ⟨after, rfl⟩ ?_
      simp only [List.length_append]
      omega
    rw [h u t ht.symm, List.append_nil] at ht
    rw [ht] at heq
    obtain rfl := List.append_cancel_left heq
    exact List.suffix_refl v

/-- An occurrence lies on one side of a character that the text does not hold. -/
theorem infix_append_cons (hx : x ∉ needle) (h : needle <:+: u ++ x :: v) :
    needle <:+: u ∨ needle <:+: v := by
  rcases List.infix_append_iff.mp h with hu | hv | ⟨s, t, rfl, hs, ht⟩
  · exact Or.inl hu
  · rcases List.infix_cons_iff.mp hv with hprefix | hv
    · rcases List.prefix_cons_iff.mp hprefix with rfl | ⟨t, rfl, _⟩
      · exact Or.inl List.nil_infix
      · exact absurd List.mem_cons_self hx
    · exact Or.inr hv
  · rcases List.prefix_cons_iff.mp ht with rfl | ⟨t, rfl, _⟩
    · rw [List.append_nil]
      exact Or.inl hs.isInfix
    · exact absurd (List.mem_append_right s List.mem_cons_self) hx

/-- A text that cannot lie across a seam occurs on one side of it. -/
theorem infix_append_iff_of_seam
    (h : ∀ s t, needle = s ++ t → s ≠ [] → t ≠ [] → s <:+ u → t <+: v → False) :
    needle <:+: u ++ v ↔ needle <:+: u ∨ needle <:+: v := by
  rw [List.infix_append_iff]
  constructor
  · rintro (hu | hv | ⟨s, t, rfl, hs, ht⟩)
    · exact Or.inl hu
    · exact Or.inr hv
    · by_cases hsnil : s = []
      · rw [hsnil, List.nil_append]
        exact Or.inr ht.isInfix
      · by_cases htnil : t = []
        · rw [htnil, List.append_nil]
          exact Or.inl hs.isInfix
        · exact (h s t rfl hsnil htnil hs ht).elim
  · rintro (hu | hv)
    · exact Or.inl hu
    · exact Or.inr (Or.inl hv)

/-- An earlier occurrence would end before the last character of the one in question. -/
theorem isFirst_of_not_infix (hn : needle ≠ []) (h : ¬ needle <:+: before ++ needle.dropLast) :
    IsFirst needle before := by
  intro b t heq
  rcases List.eq_nil_or_concat t with rfl | ⟨t, y, rfl⟩
  · rfl
  · rw [← List.dropLast_concat_getLast hn, ← List.append_assoc, List.concat_eq_append,
      ← List.append_assoc] at heq
    have hinit := (List.append_inj' heq rfl).1
    rw [List.dropLast_concat_getLast hn] at hinit
    exact absurd ⟨b, t, hinit.symm⟩ h

/-- Right after a character that the text does not hold, an earlier occurrence lies before it. -/
theorem isFirst_append_singleton (hx : x ∉ needle) (hu : ¬ needle <:+: u) :
    IsFirst needle (u ++ [x]) := by
  have hn : needle ≠ [] := by
    rintro rfl
    exact hu List.nil_infix
  refine isFirst_of_not_infix hn fun h => ?_
  rw [List.append_assoc, List.singleton_append] at h
  rcases infix_append_cons hx h with h | h
  · exact hu h
  · have hlen := h.length_le
    have hpos := List.length_pos_iff.mpr hn
    rw [List.length_dropLast] at hlen
    omega

theorem trimRight_prefix (cs : List Char) : trimRight cs <+: cs := by
  have hsuffix := List.reverse_prefix.mpr (List.dropWhile_suffix (l := cs.reverse) isBlank)
  rwa [List.reverse_reverse] at hsuffix

end StructureDerive.Text
