import Mathlib.Data.List.Basic
import Mathlib.Data.List.TakeWhile
import StructureDerive.Text.Blank

/-! # What trimming keeps

Trimming takes blanks off both ends and nothing else, so a text is its trimmed part with blanks
around it, and blanks put around a text are lost again.
-/
namespace StructureDerive.Text
variable {l r cs u v : List Char} {c : Char} {s : String}

def Blanks (cs : List Char) : Prop := ∀ c ∈ cs, isBlank c

theorem Blanks.append (hl : Blanks l) (hr : Blanks r) : Blanks (l ++ r) := by
  intro c hc
  rcases List.mem_append.mp hc with hc | hc
  · exact hl c hc
  · exact hr c hc

theorem Blanks.reverse (h : Blanks l) : Blanks l.reverse :=
  fun c hc => h c (List.mem_reverse.mp hc)

theorem dropWhile_blanks_append (hl : Blanks l) (cs : List Char) :
    (l ++ cs).dropWhile isBlank = cs.dropWhile isBlank := by
  induction l with
  | nil => rfl
  | cons c l ih =>
    have hc : isBlank c := hl c List.mem_cons_self
    rw [List.cons_append, List.dropWhile_cons_of_pos hc]
    exact ih fun d hd => hl d (List.mem_cons_of_mem c hd)

theorem dropWhile_blanks (hl : Blanks l) : l.dropWhile isBlank = [] := by
  simpa using dropWhile_blanks_append hl []

theorem trimLeft_blanks_append (hl : Blanks l) (cs : List Char) :
    trimLeft (l ++ cs) = trimLeft cs := dropWhile_blanks_append hl cs

theorem trimRight_append_blanks (cs : List Char) (hr : Blanks r) :
    trimRight (cs ++ r) = trimRight cs := by
  rw [trimRight, trimRight, List.reverse_append, dropWhile_blanks_append hr.reverse]

theorem trimLeft_cons (hc : isBlank c = false) (cs : List Char) : trimLeft (c :: cs) = c :: cs :=
  List.dropWhile_cons_of_neg (by simp [hc])

theorem trimRight_concat (hc : isBlank c = false) (cs : List Char) :
    trimRight (cs ++ [c]) = cs ++ [c] := by
  rw [trimRight, List.reverse_append, List.reverse_singleton, List.singleton_append,
    List.dropWhile_cons_of_neg (by simp [hc]), List.reverse_cons, List.reverse_reverse]

/-- A text whose first and last characters are no blanks, if it has any. -/
structure IsTrimmed (cs : List Char) : Prop where
  first : ∀ c ∈ cs.head?, isBlank c = false
  last : ∀ c ∈ cs.getLast?, isBlank c = false

theorem isTrimmed_of_forall (h : ∀ c ∈ cs, isBlank c = false) : IsTrimmed cs :=
  ⟨fun c hc => h c (List.mem_of_mem_head? hc), fun c hc => h c (List.mem_of_mem_getLast? hc)⟩

theorem isTrimmed_singleton (hc : isBlank c = false) : IsTrimmed [c] :=
  isTrimmed_of_forall fun _ hd => List.mem_singleton.mp hd ▸ hc

theorem IsTrimmed.around (hu : IsTrimmed u) (hune : u ≠ []) (m : List Char) (hv : IsTrimmed v)
    (hvne : v ≠ []) : IsTrimmed (u ++ (m ++ v)) := by
  constructor
  · intro c hc
    rw [List.head?_append_of_ne_nil u hune] at hc
    exact hu.first c hc
  · intro c hc
    rw [← List.append_assoc, List.getLast?_append_of_ne_nil _ hvne] at hc
    exact hv.last c hc

theorem IsTrimmed.trim_eq (h : IsTrimmed cs) : trim cs = cs := by
  cases cs with
  | nil => rfl
  | cons c cs =>
    rw [trim, trimLeft_cons (h.first c rfl)]
    obtain ⟨init, d, hd⟩ : ∃ init d, c :: cs = init ++ [d] :=
      ⟨_, _, (List.dropLast_concat_getLast (List.cons_ne_nil c cs)).symm⟩
    have hlast : isBlank d = false := h.last d (by rw [hd, List.getLast?_concat]; rfl)
    rw [hd, trimRight_concat hlast]

/-- What is left of a text and the blanks that were taken off it. -/
theorem exists_blanks_around (cs : List Char) :
    ∃ l r, Blanks l ∧ Blanks r ∧ cs = l ++ trim cs ++ r := by
  have hleft : cs.takeWhile isBlank ++ trimLeft cs = cs := List.takeWhile_append_dropWhile
  have hright : trimRight (trimLeft cs) ++ ((trimLeft cs).reverse.takeWhile isBlank).reverse =
      trimLeft cs := by
    rw [trimRight, ← List.reverse_append, List.takeWhile_append_dropWhile, List.reverse_reverse]
  have hl : Blanks (cs.takeWhile isBlank) := fun c hc => List.mem_takeWhile_imp hc
  have hr : Blanks ((trimLeft cs).reverse.takeWhile isBlank) := fun c hc =>
    List.mem_takeWhile_imp hc
  refine ⟨_, _, hl, hr.reverse, ?_⟩
  rw [List.append_assoc, trim, hright, hleft]

theorem mem_of_mem_trim (h : c ∈ trim cs) : c ∈ cs := by
  obtain ⟨l, r, _, _, hcs⟩ := exists_blanks_around cs
  rw [hcs]
  exact List.mem_append_left r (List.mem_append_right l h)

theorem mem_trimRight_iff (hc : isBlank c = false) : c ∈ trimRight cs ↔ c ∈ cs := by
  have hmem : c ∈ cs ↔ c ∈ cs.reverse.takeWhile isBlank ++ cs.reverse.dropWhile isBlank := by
    rw [List.takeWhile_append_dropWhile, List.mem_reverse]
  rw [hmem, trimRight, List.mem_reverse, List.mem_append, iff_or_self]
  intro hblank
  rw [List.mem_takeWhile_imp hblank] at hc
  cases hc

theorem trim_blanks (h : Blanks cs) : trim cs = [] := by
  rw [trim, trimLeft, dropWhile_blanks h]
  rfl

theorem isTrimmed_trim (cs : List Char) : IsTrimmed (trim cs) := by
  constructor
  · intro c hc
    have hprefix : trim cs <+: trimLeft cs := by
      have hsuffix := List.reverse_prefix.mpr
        (List.dropWhile_suffix (l := (trimLeft cs).reverse) isBlank)
      rwa [List.reverse_reverse] at hsuffix
    have hhead : c ∈ (trimLeft cs).head? := by
      obtain ⟨t, ht⟩ := hprefix
      rw [← ht, List.head?_append, hc]
      rfl
    have hnot := List.head?_dropWhile_not isBlank cs
    rw [← trimLeft, hhead] at hnot
    simpa using hnot
  · intro c hc
    have hnot := List.head?_dropWhile_not isBlank (trimLeft cs).reverse
    rw [trim, trimRight, List.getLast?_reverse] at hc
    rw [hc] at hnot
    simpa using hnot

/-- The first character that is no blank. -/
theorem head?_trim (cs : List Char) : (trim cs).head? = cs.find? (!isBlank ·) := by
  obtain ⟨l, r, hl, hr, hcs⟩ := exists_blanks_around cs
  have hnone : ∀ {u : List Char}, Blanks u → u.find? (!isBlank ·) = none := fun hu =>
    List.find?_eq_none.mpr fun c hc => by simp [hu c hc]
  have hfind : cs.find? (!isBlank ·) = (trim cs).find? (!isBlank ·) := by
    calc cs.find? (!isBlank ·) = (l ++ trim cs ++ r).find? (!isBlank ·) := by rw [← hcs]
      _ = (trim cs).find? (!isBlank ·) := by
        rw [List.find?_append, List.find?_append, hnone hl, hnone hr, Option.none_or,
          Option.or_none]
  rw [hfind]
  cases htrim : trim cs with
  | nil => rfl
  | cons c rest =>
    have hc : isBlank c = false := (isTrimmed_trim cs).first c (by rw [htrim]; rfl)
    rw [List.head?_cons, List.find?_cons_of_pos (by simp [hc])]

theorem trim_trim (cs : List Char) : trim (trim cs) = trim cs := (isTrimmed_trim cs).trim_eq

theorem trim_blanks_append (hl : Blanks l) (cs : List Char) : trim (l ++ cs) = trim cs := by
  rw [trim, trimLeft_blanks_append hl, ← trim]

theorem trim_append_blanks (cs : List Char) (hr : Blanks r) : trim (cs ++ r) = trim cs := by
  obtain ⟨l, r', hl, hr', hcs⟩ := exists_blanks_around cs
  have hpad : cs ++ r = l ++ (trim cs ++ (r' ++ r)) := by
    calc cs ++ r = l ++ trim cs ++ r' ++ r := by rw [← hcs]
      _ = l ++ (trim cs ++ (r' ++ r)) := by simp only [List.append_assoc]
  rw [hpad, trim_blanks_append hl]
  cases htrim : trim cs with
  | nil => exact trim_blanks (hr'.append hr)
  | cons c rest =>
    have hc : isBlank c = false := (isTrimmed_trim cs).first c (by rw [htrim]; rfl)
    have hsame := trim_trim cs
    rw [htrim, trim, trimLeft_cons hc] at hsame
    rw [List.cons_append, trim, trimLeft_cons hc, ← List.cons_append,
      trimRight_append_blanks _ (hr'.append hr), hsame]

theorem trim_eq_nil_iff : trim cs = [] ↔ Blanks cs := by
  constructor
  · intro h
    obtain ⟨l, r, hl, hr, hcs⟩ := exists_blanks_around cs
    rw [h, List.append_nil] at hcs
    exact hcs ▸ hl.append hr
  · exact trim_blanks

theorem allBlank_iff : allBlank s ↔ Blanks s.toList := List.all_eq_true

theorem strip_eq_empty_iff : strip s = "" ↔ allBlank s := by
  have hempty : strip s = "" ↔ trim s.toList = [] := by simp [strip]
  rw [hempty, trim_eq_nil_iff, allBlank_iff]

end StructureDerive.Text
