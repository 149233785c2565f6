import Mathlib.Data.List.DropRight
import Mathlib.Data.List.Forall2
import StructureDerive.LawTest.Name

/-! # How names are spelled in identifiers

The characters of a name that are no letters and no digits are gaps. The name of a constant has an
underscore for each of them, so that names of one shape are spelled alike. The name of a module has
underscores for a gap as a whole, and none at its ends, so that names are spelled alike when they
hold the same letters with equally wide gaps between them.
-/
namespace StructureDerive

namespace Text
variable {c d l : Char} {cs g h s t u v : List Char}

/-- The characters that are written as underscores, and the underscore itself. -/
def isGap (c : Char) : Bool := c == '_' || !isWord c

def Gap (cs : List Char) : Prop := ∀ c ∈ cs, isGap c

/-- Two texts that differ at most in the characters of their gaps. -/
def SameShape (u v : List Char) : Prop := List.Forall₂ (fun c d => c = d ∨ isGap c ∧ isGap d) u v

instance : Decidable (SameShape u v) :=
  inferInstanceAs (Decidable (List.Forall₂ (fun c d => c = d ∨ isGap c ∧ isGap d) u v))

/-- Underscores count one by one, `::` counts two, and other characters one for each run of them. -/
def gapWidth (inRun : Bool) : List Char → Nat
  | [] => 0
  | ':' :: ':' :: rest => gapWidth false rest + 2
  | c :: rest =>
    if c = '_' then gapWidth false rest + 1
    else gapWidth true rest + if inRun then 0 else 1

/-- The same letters, each after a gap of the same width. -/
inductive SameLetters : List Char → List Char → Prop where
  | last {g h : List Char} : Gap g → Gap h → SameLetters g h
  | next {g h s t : List Char} {l : Char} : Gap g → Gap h → gapWidth false g = gapWidth false h →
      isGap l = false → SameLetters s t → SameLetters (g ++ l :: s) (h ++ l :: t)

/-- The same letters with gaps of the same widths between them, whatever stands around them. -/
inductive SameWords : List Char → List Char → Prop where
  | none {g h : List Char} : Gap g → Gap h → SameWords g h
  | some {g h s t : List Char} {l : Char} : Gap g → Gap h → isGap l = false → SameLetters s t →
      SameWords (g ++ l :: s) (h ++ l :: t)

theorem ne_underscore_of_not_isGap (hl : isGap l = false) : l ≠ '_' := by
  rintro rfl
  cases hl

theorem isWord_of_not_isGap (hl : isGap l = false) : isWord l = true := by
  simp only [isGap, Bool.or_eq_false_iff, Bool.not_eq_false'] at hl
  exact hl.2

theorem gap_or_letter (cs : List Char) :
    Gap cs ∨ ∃ g l s, cs = g ++ l :: s ∧ Gap g ∧ isGap l = false := by
  induction cs with
  | nil => exact Or.inl (by simp [Gap])
  | cons c cs ih =>
    cases hc : isGap c with
    | false => exact Or.inr ⟨[], c, cs, rfl, by simp [Gap], hc⟩
    | true =>
      rcases ih with hgap | ⟨g, l, s, rfl, hg, hl⟩
      · exact Or.inl (List.forall_mem_cons.mpr ⟨hc, hgap⟩)
      · exact Or.inr ⟨c :: g, l, s, rfl, List.forall_mem_cons.mpr ⟨hc, hg⟩, hl⟩

theorem letter_induction {motive : List Char → Prop} (gap : ∀ g, Gap g → motive g)
    (letter : ∀ g l s, Gap g → isGap l = false → motive s → motive (g ++ l :: s))
    (cs : List Char) : motive cs := by
  rcases gap_or_letter cs with hgap | ⟨g, l, s, rfl, hg, hl⟩
  · exact gap cs hgap
  · exact letter g l s hg hl (letter_induction gap letter s)
termination_by cs.length
decreasing_by
  rename_i heq _
  simp only [heq, List.length_append, List.length_cons]
  omega

theorem isWord_of_isGap_iff (hc : isGap c = true) : isWord c = true ↔ c = '_' := by
  constructor
  · intro hword
    simpa [isGap, hword] using hc
  · rintro rfl
    rfl

/-- The character that stands for another one in the name of a scope. -/
def scopeChar (c : Char) : Char := if isWord c then c else '_'

theorem scopeChar_of_isGap (hc : isGap c = true) : scopeChar c = '_' := by
  unfold scopeChar
  split
  · rename_i hword
    exact (isWord_of_isGap_iff hc).mp hword
  · rfl

theorem scopeChar_of_not_isGap (hc : isGap c = false) : scopeChar c = c :=
  if_pos (isWord_of_not_isGap hc)

theorem scopeChar_eq_iff : scopeChar c = scopeChar d ↔ c = d ∨ isGap c ∧ isGap d := by
  cases hc : isGap c with
  | true =>
    cases hd : isGap d with
    | true => simp [scopeChar_of_isGap hc, scopeChar_of_isGap hd]
    | false =>
      have hne : d ≠ '_' := ne_underscore_of_not_isGap hd
      have hcd : c ≠ d := fun heq => by simp [heq, hd] at hc
      simp [scopeChar_of_isGap hc, scopeChar_of_not_isGap hd, hne.symm, hcd]
  | false =>
    cases hd : isGap d with
    | true =>
      have hne : c ≠ '_' := ne_underscore_of_not_isGap hc
      have hcd : c ≠ d := fun heq => by simp [heq, hd] at hc
      simp [scopeChar_of_not_isGap hc, scopeChar_of_isGap hd, hne, hcd]
    | false => simp [scopeChar_of_not_isGap hc, scopeChar_of_not_isGap hd]

theorem map_scopeChar_eq_iff : u.map scopeChar = v.map scopeChar ↔ SameShape u v := by
  rw [SameShape, ← List.forall₂_eq_eq_eq, List.forall₂_map_left_iff, List.forall₂_map_right_iff]
  simp only [scopeChar_eq_iff]

theorem head?_ne_colon (hc : ∀ rest, c = ':' → cs = ':' :: rest → False) :
    c = ':' → cs.head? ≠ some ':' := by
  intro hcolon hhead
  obtain ⟨rest, rfl⟩ := List.head?_eq_some_iff.mp hhead
  exact hc rest hcolon rfl

theorem separatorsAsUnderscores_cons (hc : c = ':' → cs.head? ≠ some ':') :
    separatorsAsUnderscores (c :: cs) = c :: separatorsAsUnderscores cs := by
  cases cs with
  | nil => simp [separatorsAsUnderscores]
  | cons d cs =>
    rw [separatorsAsUnderscores]
    rintro rest rfl ⟨⟩
    exact hc rfl rfl

theorem separatorsAsUnderscores_append (hl : isGap l = false) (u v : List Char) :
    separatorsAsUnderscores (u ++ l :: v) =
      separatorsAsUnderscores u ++ l :: separatorsAsUnderscores v := by
  have hcolon : l ≠ ':' := by
    rintro rfl
    cases hl
  fun_induction separatorsAsUnderscores u with
  | case1 rest ih => simp [separatorsAsUnderscores, ih]
  | case2 c rest hc ih =>
    rw [List.cons_append, separatorsAsUnderscores_cons, ih, List.cons_append]
    cases rest with
    | nil => simpa using fun _ => hcolon
    | cons d rest => exact fun hc' hd => head?_ne_colon hc hc' hd
  | case3 => exact separatorsAsUnderscores_cons fun h => absurd h hcolon

theorem collapseOthers_cons (hc : isWord c = true) (cs : List Char) :
    collapseOthers (c :: cs) = c :: collapseOthers cs := by
  cases cs with
  | nil => simp [collapseOthers, hc]
  | cons d cs => simp [collapseOthers, hc]

/-- The last of a run of other characters is the one that is written. -/
theorem collapseOthers_cons_other (hc : isWord c = false) (cs : List Char) :
    collapseOthers (c :: cs) =
      if cs.head?.any (!isWord ·) then collapseOthers cs else '_' :: collapseOthers cs := by
  cases cs with
  | nil => simp [collapseOthers, hc]
  | cons d cs => by_cases hd : isWord d = true <;> simp [collapseOthers, hc, hd]

theorem collapseOthers_append (hl : isWord l = true) (u v : List Char) :
    collapseOthers (u ++ l :: v) = collapseOthers u ++ l :: collapseOthers v := by
  induction u with
  | nil => exact collapseOthers_cons hl v
  | cons c u ih =>
    cases hc : isWord c with
    | true => rw [List.cons_append, collapseOthers_cons hc, collapseOthers_cons hc, ih,
        List.cons_append]
    | false =>
      have hhead : (u ++ l :: v).head?.any (!isWord ·) = u.head?.any (!isWord ·) := by
        cases u <;> simp [hl]
      rw [List.cons_append, collapseOthers_cons_other hc, collapseOthers_cons_other hc, hhead, ih]
      split
      · rfl
      · rfl

/-- A name as it is written into identifiers, before its ends are trimmed. -/
def spelled (cs : List Char) : List Char := collapseOthers (separatorsAsUnderscores cs)

theorem spelled_append (hl : isGap l = false) (g s : List Char) :
    spelled (g ++ l :: s) = spelled g ++ l :: spelled s := by
  rw [spelled, separatorsAsUnderscores_append hl, collapseOthers_append (isWord_of_not_isGap hl)]
  rfl

theorem gapWidth_cons (hc : c = ':' → cs.head? ≠ some ':') (inRun : Bool) :
    gapWidth inRun (c :: cs) =
      if c = '_' then gapWidth false cs + 1 else gapWidth true cs + if inRun then 0 else 1 := by
  cases cs with
  | nil => simp [gapWidth]
  | cons d cs =>
    rw [gapWidth]
    rintro rest rfl ⟨⟩
    exact hc rfl rfl

/-- A run that goes on has been counted where it began. -/
theorem gapWidth_true (hg : Gap g) : gapWidth false g = gapWidth true g +
    if (separatorsAsUnderscores g).head?.any (!isWord ·) then 1 else 0 := by
  fun_cases separatorsAsUnderscores g with
  | case1 rest => rfl
  | case2 c rest hc =>
    have hpair : c = ':' → rest.head? ≠ some ':' := head?_ne_colon hc
    have hword : isWord c = true ↔ c = '_' := isWord_of_isGap_iff (hg c List.mem_cons_self)
    rw [gapWidth_cons hpair, gapWidth_cons hpair]
    by_cases hunder : c = '_'
    · simp [hunder, isWord]
    · simp [hunder, hword]
  | case3 => rfl

theorem spelled_gap (hg : Gap g) : spelled g = List.replicate (gapWidth false g) '_' := by
  unfold spelled
  fun_induction separatorsAsUnderscores g with
  | case1 rest ih =>
    have hrest : Gap rest := fun c hc => hg c (List.mem_cons_of_mem _ (List.mem_cons_of_mem _ hc))
    rw [collapseOthers_cons rfl, collapseOthers_cons rfl, ih hrest]
    rfl
  | case2 c rest hc ih =>
    obtain ⟨hgap, hrest⟩ := List.forall_mem_cons.mp hg
    have hpair : c = ':' → rest.head? ≠ some ':' := head?_ne_colon hc
    rw [gapWidth_cons hpair]
    cases hword : isWord c with
    | true =>
      obtain rfl : c = '_' := (isWord_of_isGap_iff hgap).mp hword
      rw [collapseOthers_cons hword, ih hrest, if_pos rfl, List.replicate_succ]
    | false =>
      have hne : c ≠ '_' := fun heq => by simp [(isWord_of_isGap_iff hgap).mpr heq] at hword
      -- the underscore of a run is written for its last character, but counted for its first
      rw [collapseOthers_cons_other hword, ih hrest, if_neg hne, gapWidth_true hrest]
      split
      · rfl
      · rw [Nat.add_zero, ← List.replicate_succ]
        rfl
  | case3 => rfl

/-- The text of a name after a letter, without the underscores at its end. -/
def ending (cs : List Char) : List Char := (spelled cs).rdropWhile (· = '_')

theorem ending_gap (hg : Gap g) : ending g = [] := by
  rw [ending, List.rdropWhile_eq_nil_iff, spelled_gap hg]
  intro c hc
  simpa using List.eq_of_mem_replicate hc

theorem rdropWhile_append_cons (hl : l ≠ '_') (u v : List Char) :
    (u ++ l :: v).rdropWhile (· = '_') = u ++ l :: v.rdropWhile (· = '_') := by
  induction v using List.reverseRecOn with
  | nil => exact List.rdropWhile_concat_neg _ u l (by simpa using hl)
  | append_singleton v c ih =>
    rw [← List.cons_append, ← List.append_assoc, List.rdropWhile_concat, List.rdropWhile_concat, ih]
    split
    · rfl
    · rw [List.append_assoc, List.cons_append]

theorem ending_append (hg : Gap g) (hl : isGap l = false) (s : List Char) :
    ending (g ++ l :: s) = List.replicate (gapWidth false g) '_' ++ l :: ending s := by
  rw [ending, spelled_append hl, spelled_gap hg,
    rdropWhile_append_cons (ne_underscore_of_not_isGap hl)]
  rfl

theorem replicate_append_cons_inj {k m : Nat} (hc : c ≠ '_') (hd : d ≠ '_')
    (h : List.replicate k '_' ++ c :: u = List.replicate m '_' ++ d :: v) :
    k = m ∧ c = d ∧ u = v := by
  induction k generalizing m with
  | zero =>
    cases m with
    | zero => simpa using h
    | succ m => exact absurd (List.cons.inj h).1 hc
  | succ k ih =>
    cases m with
    | zero => exact absurd (List.cons.inj h).1.symm hd
    | succ m =>
      obtain ⟨rfl, hrest⟩ := ih (List.cons.inj h).2
      exact ⟨rfl, hrest⟩

theorem sameLetters_iff : SameLetters s t ↔ ending s = ending t := by
  constructor
  · intro h
    induction h with
    | last hg hh => rw [ending_gap hg, ending_gap hh]
    | next hg hh hwidth hl _ ih => rw [ending_append hg hl, ending_append hh hl, hwidth, ih]
  · intro h
    induction s using letter_induction generalizing t with
    | gap g hg =>
      rcases gap_or_letter t with ht | ⟨h', l, t, rfl, hh, hl⟩
      · exact .last hg ht
      · rw [ending_gap hg, ending_append hh hl] at h
        simp at h
    | letter g l s hg hl ih =>
      rcases gap_or_letter t with ht | ⟨h', l', t, rfl, hh, hl'⟩
      · rw [ending_gap ht, ending_append hg hl] at h
        simp at h
      · rw [ending_append hg hl, ending_append hh hl'] at h
        obtain ⟨hwidth, rfl, hrest⟩ := replicate_append_cons_inj (ne_underscore_of_not_isGap hl)
          (ne_underscore_of_not_isGap hl') h
        exact .next hg hh hwidth hl (ih hrest)

theorem trimUnderscores_spelled_gap (hg : Gap g) : trimUnderscores (spelled g) = [] := by
  simp [trimUnderscores, spelled_gap hg]

theorem trimUnderscores_spelled (hg : Gap g) (hl : isGap l = false) (s : List Char) :
    trimUnderscores (spelled (g ++ l :: s)) = l :: ending s := by
  have hne : l ≠ '_' := ne_underscore_of_not_isGap hl
  have hdrop : (List.replicate (gapWidth false g) '_' ++ l :: spelled s).dropWhile (· = '_') =
      l :: spelled s := by
    rw [List.dropWhile_append_of_pos (by simp), List.dropWhile_cons_of_neg (by simpa using hne)]
  calc trimUnderscores (spelled (g ++ l :: s))
      = ((spelled (g ++ l :: s)).dropWhile (· = '_')).rdropWhile (· = '_') := rfl
    _ = (l :: spelled s).rdropWhile (· = '_') := by rw [spelled_append hl, spelled_gap hg, hdrop]
    _ = l :: ending s := rdropWhile_append_cons hne [] (spelled s)

theorem sameWords_iff :
    SameWords s t ↔ trimUnderscores (spelled s) = trimUnderscores (spelled t) := by
  constructor
  · intro h
    cases h with
    | none hg hh => rw [trimUnderscores_spelled_gap hg, trimUnderscores_spelled_gap hh]
    | some hg hh hl hrest =>
      rw [trimUnderscores_spelled hg hl, trimUnderscores_spelled hh hl, sameLetters_iff.mp hrest]
  · intro h
    rcases gap_or_letter s with hg | ⟨g, l, s, rfl, hg, hl⟩
    · rcases gap_or_letter t with hh | ⟨h', l', t, rfl, hh, hl'⟩
      · exact .none hg hh
      · rw [trimUnderscores_spelled_gap hg, trimUnderscores_spelled hh hl'] at h
        cases h
    · rcases gap_or_letter t with hh | ⟨h', l', t, rfl, hh, hl'⟩
      · rw [trimUnderscores_spelled_gap hh, trimUnderscores_spelled hg hl] at h
        cases h
      · rw [trimUnderscores_spelled hg hl, trimUnderscores_spelled hh hl', List.cons.injEq] at h
        obtain ⟨rfl, hrest⟩ := h
        exact .some hg hh hl (sameLetters_iff.mpr hrest)

instance : Decidable (SameWords s t) := decidable_of_iff _ sameWords_iff.symm

theorem identifier_eq_iff {s t : String} :
    identifier s = identifier t ↔ SameWords s.toList t.toList := by
  rw [sameWords_iff, identifier, identifier, String.ofList_inj]
  rfl

example : SameWords "_Vec<u8>".toList "Vec u8".toList := by decide

example : ¬ SameWords "ops::W".toList "ops_W".toList := by decide

end Text
end StructureDerive
