import Mathlib.Order.Bounds.Basic
import StructureDerive.Text.EditDistance

/-! # The edit distance is a distance

Edits change one character at any place. The least number of edits between two texts follows a
recursion on their first characters, and a row of the program holds what the recursion gives for the
prefixes, read from their ends. Edits can be reversed and put one after another, which is why the
order of the two texts does not matter and a detour is never shorter.
-/
namespace StructureDerive.Text
variable {u v w : List Char} {m n : Nat}

/-- A character is inserted, deleted or replaced. -/
inductive Edit : List Char → List Char → Prop where
  | insert (before : List Char) (c : Char) (after : List Char) :
      Edit (before ++ after) (before ++ c :: after)
  | delete (before : List Char) (c : Char) (after : List Char) :
      Edit (before ++ c :: after) (before ++ after)
  | replace (before : List Char) (c d : Char) (after : List Char) :
      Edit (before ++ c :: after) (before ++ d :: after)

/-- A number of edits, one after the other. -/
inductive Edits : Nat → List Char → List Char → Prop where
  | none (u : List Char) : Edits 0 u u
  | first {n : Nat} {u v w : List Char} : Edit u v → Edits n v w → Edits (n + 1) u w

theorem Edit.symm (h : Edit u v) : Edit v u := by
  cases h with
  | insert before c after => exact .delete before c after
  | delete before c after => exact .insert before c after
  | replace before c d after => exact .replace before d c after

theorem Edit.cons (c : Char) (h : Edit u v) : Edit (c :: u) (c :: v) := by
  cases h with
  | insert before d after => exact .insert (c :: before) d after
  | delete before d after => exact .delete (c :: before) d after
  | replace before d e after => exact .replace (c :: before) d e after

theorem Edit.reverse (h : Edit u v) : Edit u.reverse v.reverse := by
  cases h with
  | insert before c after => simpa using Edit.insert after.reverse c before.reverse
  | delete before c after => simpa using Edit.delete after.reverse c before.reverse
  | replace before c d after => simpa using Edit.replace after.reverse c d before.reverse

theorem Edits.single (h : Edit u v) : Edits 1 u v := .first h (.none v)

theorem Edits.trans (huv : Edits m u v) (hvw : Edits n v w) : Edits (m + n) u w := by
  induction huv with
  | none u => simpa using hvw
  | @first k u x v hux _ ih =>
    have hrest := Edits.first hux (ih hvw)
    rwa [Nat.add_right_comm] at hrest

theorem Edits.symm (h : Edits n u v) : Edits n v u := by
  induction h with
  | none u => exact .none u
  | first huv _ ih => exact ih.trans (.single huv.symm)

theorem Edits.cons (c : Char) (h : Edits n u v) : Edits n (c :: u) (c :: v) := by
  induction h with
  | none u => exact .none (c :: u)
  | first huv _ ih => exact .first (huv.cons c) ih

theorem Edits.reverse (h : Edits n u v) : Edits n u.reverse v.reverse := by
  induction h with
  | none u => exact .none u.reverse
  | first huv _ ih => exact .first huv.reverse ih

theorem Edits.min (hm : Edits m u v) (hn : Edits n u v) : Edits (min m n) u v := by
  rw [Nat.min_def]
  split
  · exact hm
  · exact hn

theorem edits_zero_iff : Edits 0 u v ↔ u = v := by
  constructor
  · intro h
    cases h
    rfl
  · rintro rfl
    exact .none u

/-- The least number of edits, by what becomes of the first characters. -/
def distance : List Char → List Char → Nat
  | [], v => v.length
  | c :: u, [] => (c :: u).length
  | c :: u, d :: v =>
    min (min (distance u (d :: v) + 1) (distance (c :: u) v + 1))
      (distance u v + if c = d then 0 else 1)
termination_by u v => u.length + v.length

@[simp] theorem distance_nil_left (v : List Char) : distance [] v = v.length := by
  rw [distance]

@[simp] theorem distance_nil_right (u : List Char) : distance u [] = u.length := by
  cases u <;> simp [distance]

theorem distance_cons_cons (c d : Char) (u v : List Char) : distance (c :: u) (d :: v) =
    min (min (distance u (d :: v) + 1) (distance (c :: u) v + 1))
      (distance u v + if c = d then 0 else 1) := by
  rw [distance]

theorem edits_to_nil (u : List Char) : Edits u.length u [] := by
  induction u with
  | nil => exact .none []
  | cons c u ih => exact .first (.delete [] c u) ih

theorem edits_distance (u v : List Char) : Edits (distance u v) u v := by
  fun_induction distance u v with
  | case1 v => exact (edits_to_nil v).symm
  | case2 c u => exact edits_to_nil (c :: u)
  | case3 c u d v hdelete hinsert hkeep =>
    have hdeleted : Edits (distance u (d :: v) + 1) (c :: u) (d :: v) :=
      .first (.delete [] c u) hdelete
    have hinserted : Edits (distance (c :: u) v + 1) (c :: u) (d :: v) :=
      hinsert.trans (.single (.insert [] d v))
    have hkept : Edits (distance u v + if c = d then 0 else 1) (c :: u) (d :: v) := by
      split
      · rename_i hsame
        rw [hsame]
        exact hkeep.cons d
      · exact (hkeep.cons c).trans (.single (.replace [] c d v))
    exact (hdeleted.min hinserted).min hkept

theorem distance_cons_left_le (c : Char) (u w : List Char) :
    distance (c :: u) w ≤ distance u w + 1 := by
  cases w with
  | nil => simp
  | cons d w =>
    rw [distance_cons_cons]
    omega

theorem distance_cons_right_le (d : Char) (u w : List Char) :
    distance u (d :: w) ≤ distance u w + 1 := by
  cases u with
  | nil => simp
  | cons c u =>
    rw [distance_cons_cons]
    omega

theorem distance_cons_cons_le (c d : Char) (u w : List Char) :
    distance (c :: u) (d :: w) ≤ distance u w + 1 := by
  rw [distance_cons_cons]
  split <;> omega

theorem distance_le_of_delete (c : Char) (u w : List Char) :
    distance u w ≤ distance (c :: u) w + 1 := by
  induction w with
  | nil =>
    simp only [distance_nil_right, List.length_cons]
    omega
  | cons d w ih =>
    have hright := distance_cons_right_le d u w
    rw [distance_cons_cons]
    omega

theorem distance_le_of_replace (c d : Char) (u w : List Char) :
    distance (c :: u) w ≤ distance (d :: u) w + 1 := by
  induction w with
  | nil => simp
  | cons e w ih =>
    have hleft := distance_cons_left_le c u (e :: w)
    have hright := distance_cons_right_le e (c :: u) w
    have hboth := distance_cons_cons_le c e u w
    rw [distance_cons_cons d e]
    omega

/-- A bound that holds behind a character holds with the character in front. -/
theorem distance_cons_congr (h : ∀ w, distance u w ≤ distance v w + 1) (c : Char) (w : List Char) :
    distance (c :: u) w ≤ distance (c :: v) w + 1 := by
  induction w with
  | nil => simpa using h []
  | cons d w ih =>
    have hdelete := h (d :: w)
    have hkeep := h w
    rw [distance_cons_cons, distance_cons_cons]
    omega

theorem Edit.distance_le (h : Edit u v) (w : List Char) : distance u w ≤ distance v w + 1 := by
  cases h with
  | insert before c after =>
    induction before generalizing w with
    | nil => exact distance_le_of_delete c after w
    | cons d before ih => exact distance_cons_congr ih d w
  | delete before c after =>
    induction before generalizing w with
    | nil => exact distance_cons_left_le c after w
    | cons d before ih => exact distance_cons_congr ih d w
  | replace before c d after =>
    induction before generalizing w with
    | nil => exact distance_le_of_replace c d after w
    | cons e before ih => exact distance_cons_congr ih e w

theorem Edits.distance_le (h : Edits n u v) : distance u v ≤ n := by
  induction h with
  | none u =>
    induction u with
    | nil => simp
    | cons c u ih =>
      rw [distance_cons_cons, if_pos rfl]
      omega
  | @first n u v w huv _ ih =>
    have hstep := huv.distance_le w
    omega

theorem isLeast_distance (u v : List Char) : IsLeast {n | Edits n u v} (distance u v) :=
  ⟨edits_distance u v, fun _ h => h.distance_le⟩

theorem distance_comm (u v : List Char) : distance u v = distance v u :=
  le_antisymm (edits_distance v u).symm.distance_le (edits_distance u v).symm.distance_le

theorem distance_reverse (u v : List Char) : distance u.reverse v.reverse = distance u v := by
  refine le_antisymm (edits_distance u v).reverse.distance_le ?_
  simpa using (edits_distance u.reverse v.reverse).reverse.distance_le

theorem distance_triangle (u v w : List Char) : distance u w ≤ distance u v + distance v w :=
  ((edits_distance u v).trans (edits_distance v w)).distance_le

theorem distance_eq_zero_iff : distance u v = 0 ↔ u = v := by
  rw [← edits_zero_iff]
  constructor
  · intro h
    rw [← h]
    exact edits_distance u v
  · intro h
    exact Nat.le_zero.mp h.distance_le

/-- The distances from `u` to `v` and to all its extensions by the first characters of a text, where
`u` and `v` are read from their ends. -/
def row (u v : List Char) : List Char → List Nat
  | [] => [distance u v]
  | d :: rest => distance u v :: row u (d :: v) rest

theorem row_eq_cons (u v rest : List Char) :
    row u v rest = distance u v :: (row u v rest).tail := by
  cases rest <;> rfl

theorem getLastD_row (u v rest : List Char) (default : Nat) :
    (row u v rest).getLastD default = distance u (rest.reverse ++ v) := by
  induction rest generalizing v default with
  | nil => rfl
  | cons d rest ih =>
    rw [row, List.getLastD_cons, ih]
    simp

/-- The first row counts the characters that have to be inserted. -/
theorem range'_eq_row (v rest : List Char) :
    List.range' v.length (rest.length + 1) = row [] v rest := by
  induction rest generalizing v with
  | nil => simp [row]
  | cons d rest ih =>
    have hrest := ih (d :: v)
    rw [List.length_cons] at hrest
    simp [row, List.range'_succ, ← hrest]

/-- The entries of a row come from the row above it and from the entry before them. -/
theorem extendRow_row (c : Char) (u v rest : List Char) :
    extendRow c rest (row u v rest) (distance (c :: u) v) = (row (c :: u) v rest).tail := by
  induction rest generalizing v with
  | nil => rfl
  | cons d rest ih =>
    have habove := row_eq_cons u (d :: v) rest
    have hhere : min (min (distance u (d :: v) + 1) (distance (c :: u) v + 1))
        (distance u v + if c = d then 0 else 1) = distance (c :: u) (d :: v) :=
      (distance_cons_cons c d u v).symm
    rw [row, habove, extendRow, ← habove]
    simp only [hhere, ih]
    exact (row_eq_cons (c :: u) (d :: v) rest).symm

theorem nextRow_row (c : Char) (u other : List Char) :
    nextRow other (row u [] other) c = row (c :: u) [] other := by
  have hfirst : (row u [] other).headD 0 + 1 = distance (c :: u) [] := by
    rw [row_eq_cons]
    simp
  rw [nextRow, hfirst, extendRow_row]
  exact (row_eq_cons (c :: u) [] other).symm

theorem foldl_nextRow_row (long u short : List Char) :
    long.foldl (nextRow short) (row u [] short) = row (long.reverse ++ u) [] short := by
  induction long generalizing u with
  | nil => rfl
  | cons c long ih => simp [nextRow_row, ih]

/-- The last row holds the distances from the whole first text to the prefixes of the other one. -/
theorem lastRow_eq_row (long short : List Char) :
    lastRow long short = row long.reverse [] short := by
  have hrange : List.range (short.length + 1) = row [] [] short := by
    rw [List.range_eq_range', ← range'_eq_row]
    rfl
  rw [lastRow, hrange, foldl_nextRow_row, List.append_nil]

theorem getLastD_lastRow (long short : List Char) :
    (lastRow long short).getLastD 0 = distance long short := by
  rw [lastRow_eq_row, getLastD_row, List.append_nil, distance_reverse]

theorem editDistance_eq_distance (a b : String) :
    editDistance a b = distance a.toList b.toList := by
  by_cases h : a.toList.length < b.toList.length
  · simp only [editDistance, if_pos h]
    rw [getLastD_lastRow, distance_comm]
  · simp only [editDistance, if_neg h]
    exact getLastD_lastRow a.toList b.toList

/-- The program finds the least number of edits that lead from one text to another. So it tells
different texts apart, treats both texts alike and gives no detour a lower number. -/
theorem editDistance_isLeast (a b c : String) :
    IsLeast {n | Edits n a.toList b.toList} (editDistance a b) ∧
      (editDistance a b = 0 ↔ a = b) ∧ editDistance a b = editDistance b a ∧
        editDistance a c ≤ editDistance a b + editDistance b c := by
  simp only [editDistance_eq_distance]
  refine ⟨isLeast_distance _ _, ?_, distance_comm _ _, distance_triangle _ _ _⟩
  rw [distance_eq_zero_iff, String.toList_inj]

example : editDistance "kitten" "sitting" = 3 := by decide

end StructureDerive.Text
