import Mathlib.Data.List.Induction
import StructureDerive.Proofs.Deduplication

/-! # First occurrences

A deduplicated list is known from the list that it comes from: its keys in the order of their first
occurrences, and for each of them the first occurrence with the first known companion. Insertions of
a deduplicated list do what those of the whole list do, so a list can be deduplicated part by part.
-/
namespace StructureDerive.Obligation
variable {k o p : Obligation} {kept os : List Obligation} {key : String × List String}

theorem keys_dedupe (os : List Obligation) :
    (dedupe os).map (·.key) = (os.map (·.key)).eraseDups := by
  induction os using List.reverseRecOn with
  | nil => rfl
  | append_singleton os o ih =>
    have hstep : dedupe (os ++ [o]) = insert (dedupe os) o := List.foldl_concat insert [] o os
    have hmem : o.key ∈ (dedupe os).map (·.key) ↔ o.key ∈ os.map (·.key) := mem_keys_dedupe
    rw [hstep, keys_insert, List.map_append, List.map_singleton, List.eraseDups_append, ← ih]
    by_cases ho : o.key ∈ os.map (·.key)
    · have hnone : [o.key].removeAll (os.map (·.key)) = [] := by
        simpa [List.removeAll] using ho
      rw [if_pos (hmem.mpr ho), hnone, List.eraseDups_nil, List.append_nil]
    · have hnew : [o.key].removeAll (os.map (·.key)) = [o.key] := by
        simpa [List.removeAll] using ho
      rw [if_neg fun h => ho (hmem.mp h), hnew]
      rfl

/-- A list whose keys are pairwise different holds what a look-up of its keys finds. -/
theorem eq_filterMap_find? {l : List Obligation} (hl : (l.map (·.key)).Nodup) :
    l = (l.map (·.key)).filterMap fun key => l.find? (·.key = key) := by
  have hfound : ∀ k ∈ l, l.find? (·.key = k.key) = some k := fun k hk => find?_key hl hk
  calc l = l.filterMap some := List.filterMap_some.symm
    _ = l.filterMap fun k => l.find? (·.key = k.key) :=
      List.filterMap_congr fun k hk => (hfound k hk).symm
    _ = (l.map (·.key)).filterMap fun key => l.find? (·.key = key) := by
      rw [List.filterMap_map]
      rfl

theorem adopt_adopt (k o p : Obligation) : (k.adopt o).adopt p = k.adopt (o.adopt p) := by
  have hcompanion : ((k.companion <|> o.companion) <|> p.companion) =
      (k.companion <|> (o.companion <|> p.companion)) := by
    cases k.companion <;> rfl
  simp only [adopt, hcompanion]

/-- Two obligations of one key are inserted as one. -/
theorem insert_insert_of_key_eq (hkey : p.key = o.key) (kept : List Obligation) :
    insert (insert kept o) p = insert kept (o.adopt p) := by
  induction kept with
  | nil => simp [insert, hkey]
  | cons k rest ih =>
    by_cases hk : k.key = o.key
    · simp [insert, hk, hkey, adopt_adopt]
    · have hk' : k.key ≠ p.key := fun h => hk (h.trans hkey)
      simp [insert, hk, hk', ih]

/-- A repetition can be inserted before anything of another key, as it finds its place. -/
theorem insert_comm_of_mem (hmem : p.key ∈ kept.map (·.key)) (hkey : o.key ≠ p.key) :
    insert (insert kept o) p = insert (insert kept p) o := by
  induction kept with
  | nil => cases hmem
  | cons k rest ih =>
    by_cases ho : k.key = o.key
    · have hp : k.key ≠ p.key := fun h => hkey (ho.symm.trans h)
      simp [insert, ho, hkey]
    · by_cases hp : k.key = p.key
      · simp [insert, hp, Ne.symm hkey]
      · have hrest : p.key ∈ rest.map (·.key) := by
          rcases List.mem_cons.mp hmem with h | h
          · exact absurd h.symm hp
          · exact h
        simp [insert, ho, hp, ih hrest]

theorem foldl_insert_comm (hmem : p.key ∈ kept.map (·.key)) (hkeys : ∀ o ∈ os, o.key ≠ p.key) :
    insert (os.foldl insert kept) p = os.foldl insert (insert kept p) := by
  induction os generalizing kept with
  | nil => rfl
  | cons o os ih =>
    obtain ⟨ho, hos⟩ := List.forall_mem_cons.mp hkeys
    have hnext : p.key ∈ (insert kept o).map (·.key) := by
      rw [keys_insert]
      split
      · exact hmem
      · exact List.mem_append_left _ hmem
    rw [List.foldl_cons, List.foldl_cons, ih hnext hos, insert_comm_of_mem hmem ho]

/-- An insertion into a list of new obligations can wait until the others are inserted. -/
theorem foldl_insert_insert (hos : (os.map (·.key)).Nodup) (o : Obligation) :
    (insert os o).foldl insert kept = insert (os.foldl insert kept) o := by
  induction os generalizing kept with
  | nil => rfl
  | cons p os ih =>
    rw [List.map_cons, List.nodup_cons] at hos
    obtain ⟨hp, hos⟩ := hos
    by_cases hkey : p.key = o.key
    · have hothers : ∀ q ∈ os, q.key ≠ o.key := fun q hq heq =>
        hp (hkey.trans heq.symm ▸ List.mem_map_of_mem hq)
      have hplace : o.key ∈ (insert kept p).map (·.key) := by
        rw [keys_insert, ← hkey]
        split
        · assumption
        · exact List.mem_append_right _ List.mem_cons_self
      rw [insert, if_pos hkey, List.foldl_cons, List.foldl_cons, foldl_insert_comm hplace hothers,
        insert_insert_of_key_eq hkey.symm]
    · rw [insert, if_neg hkey, List.foldl_cons, List.foldl_cons, ih hos]

/-- Repetitions within a list make no difference where the list is inserted. -/
theorem foldl_insert_dedupe (kept os : List Obligation) :
    (dedupe os).foldl insert kept = os.foldl insert kept := by
  induction os using List.reverseRecOn with
  | nil => rfl
  | append_singleton os o ih =>
    have hstep : dedupe (os ++ [o]) = insert (dedupe os) o := List.foldl_concat insert [] o os
    rw [hstep, foldl_insert_insert (nodup_keys_dedupe os), ih, List.foldl_concat]

/-- Deduplication keeps the first obligation of each key, in the order of the first occurrences, and
gives it the first companion that any occurrence of the key has. So nothing is left to deduplicate,
and the parts of a list may be deduplicated before the whole. -/
theorem dedupe_keeps_first :
    (∀ os, dedupe os = (os.map (·.key)).eraseDups.filterMap fun key =>
      (os.find? (·.key = key)).map fun first =>
        { first with companion := (os.filter (·.key = key)).findSome? (·.companion) }) ∧
    (∀ os, dedupe (dedupe os) = dedupe os) ∧
    ∀ xs ys, dedupe (xs ++ ys) = dedupe (dedupe xs ++ dedupe ys) := by
  have htwice : ∀ os, dedupe (dedupe os) = dedupe os := foldl_insert_dedupe []
  refine ⟨fun os => ?_, htwice, fun xs ys => ?_⟩
  · have hlist := eq_filterMap_find? (nodup_keys_dedupe os)
    rw [keys_dedupe] at hlist
    rw [hlist]
    refine List.filterMap_congr fun key _ => ?_
    exact find?_dedupe_eq os key
  · calc dedupe (xs ++ ys) = ys.foldl insert (dedupe xs) := List.foldl_append
      _ = (dedupe ys).foldl insert (dedupe (dedupe xs)) := by
        rw [foldl_insert_dedupe, htwice]
      _ = dedupe (dedupe xs ++ dedupe ys) := List.foldl_append.symm

/-- The companion of a repetition goes to the first occurrence, its clause and its source do not. -/
example : dedupe [⟨"Loop", ["Additive"], none, 0, none⟩, ⟨"Group", ["Additive"], none, 1, none⟩,
      ⟨"Loop", ["Additive"], some "T: Copy", 2, some "Multiplicative"⟩] =
    [⟨"Loop", ["Additive"], none, 0, some "Multiplicative"⟩,
      ⟨"Group", ["Additive"], none, 1, none⟩] := by decide

end StructureDerive.Obligation
