import StructureDerive.Text.Blank
import StructureDerive.Text.Path

/-! # What an identifier path is

The characters are read one by one, with the place in the path as the only memory. What is accepted
that way is one identifier or more, with `::` in front of all but the first.
-/
namespace StructureDerive.Text
variable {cs : List Char} {c : Char}

/-- Identifiers, each with a separator in front of it. -/
def furtherSegments (segments : List (List Char)) : List Char :=
  segments.flatMap fun s => ':' :: ':' :: s

/-- One identifier or more, with a separator between them. -/
def IsIdentifierPath (cs : List Char) : Prop :=
  ∃ first rest, (∀ s ∈ first :: rest, isIdentifier s) ∧ cs = first ++ furtherSegments rest

/-- What may follow at a place within a path. -/
def Continues : PathPlace → List Char → Prop
  | .segmentStart, cs => IsIdentifierPath cs
  | .segment, cs => ∃ more rest, (∀ c ∈ more, isIdentifierRest c) ∧ (∀ s ∈ rest, isIdentifier s) ∧
      cs = more ++ furtherSegments rest
  | .separator, cs => ∃ rest, cs = ':' :: rest ∧ IsIdentifierPath rest

theorem not_isIdentifierRest_colon : isIdentifierRest ':' = false := by decide

theorem isIdentifierPath_cons_iff : IsIdentifierPath (c :: cs) ↔
    isIdentifierStart c ∧ Continues .segment cs := by
  constructor
  · rintro ⟨first, rest, hall, heq⟩
    obtain ⟨hfirst, hrest⟩ := List.forall_mem_cons.mp hall
    cases first with
    | nil => simp [isIdentifier] at hfirst
    | cons d more =>
      obtain ⟨rfl, rfl⟩ := List.cons.inj heq
      rw [isIdentifier, Bool.and_eq_true, List.all_eq_true] at hfirst
      exact ⟨hfirst.1, more, rest, hfirst.2, hrest, rfl⟩
  · rintro ⟨hc, more, rest, hmore, hrest, rfl⟩
    refine ⟨c :: more, rest, List.forall_mem_cons.mpr ⟨?_, hrest⟩, rfl⟩
    rw [isIdentifier, Bool.and_eq_true, List.all_eq_true]
    exact ⟨hc, hmore⟩

theorem not_isIdentifierPath_nil : ¬ IsIdentifierPath [] := by
  rintro ⟨first, rest, hall, heq⟩
  obtain ⟨rfl, _⟩ := List.append_eq_nil_iff.mp heq.symm
  have hfirst := hall [] List.mem_cons_self
  simp [isIdentifier] at hfirst

theorem continues_segment_cons_iff (hc : isIdentifierRest c) :
    Continues .segment (c :: cs) ↔ Continues .segment cs := by
  constructor
  · rintro ⟨more, rest, hmore, hrest, heq⟩
    cases more with
    | nil =>
      cases rest with
      | nil => cases heq
      | cons s rest =>
        obtain ⟨rfl, _⟩ := List.cons.inj heq
        simp [not_isIdentifierRest_colon] at hc
    | cons d more =>
      obtain ⟨_, rfl⟩ := List.cons.inj heq
      exact ⟨more, rest, (List.forall_mem_cons.mp hmore).2, hrest, rfl⟩
  · rintro ⟨more, rest, hmore, hrest, rfl⟩
    exact ⟨c :: more, rest, List.forall_mem_cons.mpr ⟨hc, hmore⟩, hrest, rfl⟩

theorem continues_segment_separator_iff (hc : isIdentifierRest c = false) :
    Continues .segment (c :: cs) ↔ c = ':' ∧ Continues .separator cs := by
  constructor
  · rintro ⟨more, rest, hmore, hrest, heq⟩
    cases more with
    | nil =>
      cases rest with
      | nil => cases heq
      | cons s rest =>
        obtain ⟨rfl, rfl⟩ := List.cons.inj heq
        exact ⟨rfl, s ++ furtherSegments rest, rfl, s, rest, hrest, rfl⟩
    | cons d more =>
      obtain ⟨rfl, _⟩ := List.cons.inj heq
      simp [hmore c List.mem_cons_self] at hc
  · rintro ⟨rfl, _, rfl, first, rest, hall, rfl⟩
    exact ⟨[], first :: rest, by simp, hall, rfl⟩

theorem isPathFrom_iff (place : PathPlace) (cs : List Char) :
    isPathFrom place cs ↔ Continues place cs := by
  fun_induction isPathFrom place cs with
  | case1 => exact ⟨fun _ => ⟨[], [], by simp, by simp, rfl⟩, fun _ => rfl⟩
  | case2 place hplace =>
    cases place with
    | segmentStart => simp [Continues, not_isIdentifierPath_nil]
    | segment => exact absurd rfl hplace
    | separator => simp [Continues]
  | case3 c rest ih => rw [Bool.and_eq_true, ih, Continues, isIdentifierPath_cons_iff]
  | case4 c rest hc ih => rw [ih, continues_segment_cons_iff hc]
  | case5 c rest hc ih =>
    rw [Bool.and_eq_true, ih, decide_eq_true_eq,
      continues_segment_separator_iff (Bool.eq_false_iff.mpr hc)]
  | case6 c rest ih =>
    rw [Bool.and_eq_true, ih, decide_eq_true_eq]
    constructor
    · rintro ⟨rfl, hrest⟩
      exact ⟨rest, rfl, hrest⟩
    · rintro ⟨_, heq, hrest⟩
      obtain ⟨rfl, rfl⟩ := List.cons.inj heq
      exact ⟨rfl, hrest⟩

/-- The paths are exactly the texts that are read as paths. -/
theorem isPath_iff : isPath cs ↔ IsIdentifierPath cs := isPathFrom_iff .segmentStart cs

theorem isIdentifierRest_iff : isIdentifierRest c ↔ (48 ≤ c.toNat ∧ c.toNat ≤ 57) ∨
    (65 ≤ c.toNat ∧ c.toNat ≤ 90) ∨ c.toNat = 95 ∨ (97 ≤ c.toNat ∧ c.toNat ≤ 122) := by
  have hupper : c.isUpper ↔ 65 ≤ c.toNat ∧ c.toNat ≤ 90 := decide_eq_true_iff
  have hlower : c.isLower ↔ 97 ≤ c.toNat ∧ c.toNat ≤ 122 :=
    (Bool.and_eq_true_iff).trans (and_congr decide_eq_true_iff decide_eq_true_iff)
  have hdigit : c.isDigit ↔ 48 ≤ c.toNat ∧ c.toNat ≤ 57 :=
    (Bool.and_eq_true_iff).trans (and_congr decide_eq_true_iff decide_eq_true_iff)
  have hunderscore : c = '_' ↔ c.toNat = 95 := ⟨fun h => h ▸ rfl, fun h => Char.toNat_inj.mp h⟩
  have hrest : isIdentifierRest c = (((c.isUpper || c.isLower) || c.isDigit) || c == '_') := rfl
  rw [hrest, Bool.or_eq_true, Bool.or_eq_true, Bool.or_eq_true, beq_iff_eq, hupper, hlower, hdigit,
    hunderscore]
  omega

theorem isBlank_of_isIdentifierRest (h : isIdentifierRest c) : isBlank c = false := by
  have hrange := isIdentifierRest_iff.mp h
  simp only [isBlank, Bool.or_eq_false_iff, Bool.and_eq_false_iff, decide_eq_false_iff_not,
    beq_eq_false_iff_ne]
  omega

theorem isIdentifierRest_of_mem (h : isIdentifier cs) (hc : c ∈ cs) : isIdentifierRest c := by
  cases cs with
  | nil => cases hc
  | cons d cs =>
    rw [isIdentifier, Bool.and_eq_true, List.all_eq_true] at h
    rcases List.mem_cons.mp hc with rfl | hc
    · exact isIdentifierRest_of_start h.1
    · exact h.2 c hc

theorem isIdentifierRest_or_eq_colon_of_mem (h : IsIdentifierPath cs) (hc : c ∈ cs) :
    isIdentifierRest c ∨ c = ':' := by
  obtain ⟨first, rest, hall, rfl⟩ := h
  obtain ⟨hfirst, hrest⟩ := List.forall_mem_cons.mp hall
  rcases List.mem_append.mp hc with hc | hc
  · exact Or.inl (isIdentifierRest_of_mem hfirst hc)
  · obtain ⟨s, hs, hc⟩ := List.mem_flatMap.mp hc
    rcases List.mem_cons.mp hc with rfl | hc
    · exact Or.inr rfl
    · rcases List.mem_cons.mp hc with rfl | hc
      · exact Or.inr rfl
      · exact Or.inl (isIdentifierRest_of_mem (hrest s hs) hc)

theorem isBlank_of_mem_identifier (h : isIdentifier cs) (hc : c ∈ cs) : isBlank c = false :=
  isBlank_of_isIdentifierRest (isIdentifierRest_of_mem h hc)

end StructureDerive.Text
