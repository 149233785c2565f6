import Mathlib.Data.List.Nodup
import StructureDerive.Request.Expansion

/-! # One obligation for each key

Insertion touches only the obligation of its own key. A look-up therefore sees a deduplication as a
fold over the occurrences of one key, from which companions and repetitions are read off.
-/
namespace StructureDerive.Obligation
variable {k o p : Obligation} {kept os : List Obligation} {key : String × List String}

@[simp] theorem adopt_key (k o : Obligation) : (k.adopt o).key = k.key := rfl

/-- A repetition brings nothing new: its key is there, and so is a companion if it has one. -/
def Covers (k o : Obligation) : Prop := k.key = o.key ∧ (k.companion = none → o.companion = none)

theorem Covers.trans (hk : k.Covers o) (ho : o.Covers p) : k.Covers p :=
  ⟨hk.1.trans ho.1, fun h => ho.2 (hk.2 h)⟩

theorem Covers.adopt_eq (h : k.Covers o) : k.adopt o = k := by
  obtain ⟨kind, operators, clause, source, companion⟩ := k
  cases companion with
  | none => simp [adopt, h.2 rfl]
  | some a => rfl

theorem keys_insert : (insert kept o).map (·.key) =
    if o.key ∈ kept.map (·.key) then kept.map (·.key) else kept.map (·.key) ++ [o.key] := by
  induction kept with
  | nil => simp [insert]
  | cons k rest ih =>
    rw [insert]
    by_cases hk : k.key = o.key
    · simp [hk]
    · simp only [if_neg hk, List.map_cons, ih, List.mem_cons, Ne.symm hk, false_or]
      split <;> rfl

theorem nodup_keys_insert (h : (kept.map (·.key)).Nodup) : ((insert kept o).map (·.key)).Nodup := by
  rw [keys_insert]
  split
  · exact h
  · rename_i hfresh
    rw [List.nodup_append]
    refine ⟨h, List.nodup_singleton _, ?_⟩
    intro a ha b hb heq
    rw [List.mem_singleton.mp hb] at heq
    exact hfresh (heq ▸ ha)

theorem nodup_keys_foldl (h : (kept.map (·.key)).Nodup) :
    ((os.foldl insert kept).map (·.key)).Nodup := by
  induction os generalizing kept with
  | nil => exact h
  | cons o os ih => exact ih (nodup_keys_insert h)

/-- No key occurs twice in a deduplicated list. -/
theorem nodup_keys_dedupe (os : List Obligation) : ((dedupe os).map (·.key)).Nodup :=
  nodup_keys_foldl List.nodup_nil

theorem find?_insert : (insert kept o).find? (·.key = key) =
    if o.key = key then some ((kept.find? (·.key = key)).elim o (·.adopt o))
    else kept.find? (·.key = key) := by
  induction kept with
  | nil => by_cases ho : o.key = key <;> simp [insert, ho]
  | cons k rest ih =>
    rw [insert]
    by_cases hk : k.key = o.key
    · by_cases ho : o.key = key <;> simp [hk, ho]
    · rw [if_neg hk]
      by_cases hkey : k.key = key
      · have ho : o.key ≠ key := fun h => hk (hkey.trans h.symm)
        simp [hkey, ho]
      · simp [hkey, ih]

/-- Further occurrences of a key are folded into the first one. -/
def settle (found : Option Obligation) (o : Obligation) : Option Obligation :=
  some (found.elim o (·.adopt o))

theorem find?_foldl_insert : (os.foldl insert kept).find? (·.key = key) =
    (os.filter (·.key = key)).foldl settle (kept.find? (·.key = key)) := by
  induction os generalizing kept with
  | nil => rfl
  | cons o os ih =>
    rw [List.foldl_cons, ih, find?_insert]
    by_cases ho : o.key = key <;> simp [ho, settle]

theorem foldl_settle_isSome (found : Option Obligation) (os : List Obligation) :
    (os.foldl settle found).isSome = (found.isSome || !os.isEmpty) := by
  induction os generalizing found with
  | nil => simp
  | cons o os ih => simp [ih, settle]

theorem foldl_settle_some (k : Obligation) (os : List Obligation) : os.foldl settle (some k) =
    some { k with companion := k.companion <|> os.findSome? (·.companion) } := by
  induction os generalizing k with
  | nil => simp
  | cons o os ih =>
    rw [List.foldl_cons, settle, Option.elim_some, ih, adopt, List.findSome?_cons]
    cases k.companion <;> cases o.companion <;> rfl

/-- The companion that a deduplicated list keeps for a key. -/
def firstCompanion (key : String × List String) (os : List Obligation) : Option String :=
  (os.filter (·.key = key)).findSome? (·.companion)

theorem find?_dedupe (os : List Obligation) (key : String × List String) :
    (dedupe os).find? (·.key = key) = (os.filter (·.key = key)).foldl settle none :=
  find?_foldl_insert

theorem key_of_find? {l : List Obligation} (h : l.find? (·.key = key) = some k) : k.key = key := by
  have hk := List.find?_some h
  exact of_decide_eq_true hk

theorem find?_key {l : List Obligation} (hl : (l.map (·.key)).Nodup) (hk : k ∈ l) :
    l.find? (·.key = k.key) = some k := by
  have hsome : (l.find? (·.key = k.key)).isSome :=
    List.find?_isSome.mpr ⟨k, hk, decide_eq_true rfl⟩
  obtain ⟨o, ho⟩ := Option.isSome_iff_exists.mp hsome
  have heq := List.inj_on_of_nodup_map hl (List.mem_of_find?_eq_some ho) hk (key_of_find? ho)
  rw [ho, heq]

/-- Deduplication keeps every key and brings none of its own. -/
theorem mem_keys_dedupe : key ∈ (dedupe os).map (·.key) ↔ key ∈ os.map (·.key) := by
  have hdedupe : key ∈ (dedupe os).map (·.key) ↔ ((dedupe os).find? (·.key = key)).isSome := by
    simp [List.find?_isSome]
  rw [hdedupe, find?_dedupe, foldl_settle_isSome]
  simp [List.filter_eq_nil_iff]

/-- A look-up finds the first occurrence of a key, with the first companion that is known for it. -/
theorem find?_dedupe_eq (os : List Obligation) (key : String × List String) :
    (dedupe os).find? (·.key = key) = (os.find? (·.key = key)).map fun first =>
      { first with companion := firstCompanion key os } := by
  rw [find?_dedupe, ← List.head?_filter, firstCompanion]
  cases os.filter (·.key = key) with
  | nil => rfl
  | cons first rest =>
    rw [List.foldl_cons, settle, Option.elim_none, foldl_settle_some, List.findSome?_cons]
    cases first.companion <;> rfl

/-- A kept obligation is the first occurrence of its key in all but the companion. -/
theorem exists_find?_of_mem_dedupe (hk : k ∈ dedupe os) :
    ∃ first, os.find? (·.key = k.key) = some first ∧
      k = { first with companion := firstCompanion k.key os } := by
  have hfind := find?_key (nodup_keys_dedupe os) hk
  rw [find?_dedupe_eq] at hfind
  obtain ⟨first, hfirst, heq⟩ := Option.map_eq_some_iff.mp hfind
  exact ⟨first, hfirst, heq.symm⟩

/-- A kept obligation has the first companion that any occurrence of its key has. -/
theorem companion_of_mem_dedupe (hk : k ∈ dedupe os) :
    k.companion = firstCompanion k.key os := by
  obtain ⟨_, _, heq⟩ := exists_find?_of_mem_dedupe hk
  exact congrArg companion heq

theorem firstCompanion_eq_none_iff :
    firstCompanion key os = none ↔ ∀ o ∈ os, o.key = key → o.companion = none := by
  simp [firstCompanion]

/-- Whatever an obligation of a list covers is covered after deduplication, too. -/
theorem exists_covers_dedupe (ho : o ∈ os) : ∃ k ∈ dedupe os, k.Covers o := by
  obtain ⟨k, hk, hkey⟩ := List.mem_map.mp (mem_keys_dedupe.mpr (List.mem_map_of_mem ho))
  refine ⟨k, hk, hkey, fun hnone => ?_⟩
  rw [companion_of_mem_dedupe hk] at hnone
  exact firstCompanion_eq_none_iff.mp hnone o ho hkey.symm

theorem insert_eq_self (hkept : (kept.map (·.key)).Nodup) (hk : k ∈ kept) (h : k.Covers o) :
    insert kept o = kept := by
  induction kept with
  | nil => cases hk
  | cons first rest ih =>
    rw [List.map_cons, List.nodup_cons] at hkept
    rw [insert]
    rcases List.mem_cons.mp hk with rfl | hk
    · rw [if_pos h.1, h.adopt_eq]
    · have hne : first.key ≠ o.key := by
        rw [← h.1]
        exact fun heq => hkept.1 (heq ▸ List.mem_map_of_mem hk)
      rw [if_neg hne, ih hkept.2 hk]

theorem foldl_insert_eq_self (hkept : (kept.map (·.key)).Nodup)
    (h : ∀ o ∈ os, ∃ k ∈ kept, k.Covers o) : os.foldl insert kept = kept := by
  induction os with
  | nil => rfl
  | cons o os ih =>
    obtain ⟨k, hk, hcovers⟩ := h o List.mem_cons_self
    rw [List.foldl_cons, insert_eq_self hkept hk hcovers]
    exact ih fun p hp => h p (List.mem_cons_of_mem _ hp)

/-- Obligations that bring nothing new leave the deduplicated list as it is. -/
theorem dedupe_append_of_covers {new : List Obligation} (h : ∀ o ∈ new, ∃ k ∈ os, k.Covers o) :
    dedupe (os ++ new) = dedupe os := by
  rw [dedupe, List.foldl_append]
  refine foldl_insert_eq_self (nodup_keys_dedupe os) fun o ho => ?_
  obtain ⟨k, hk, hcovers⟩ := h o ho
  obtain ⟨kept, hkept, hkeeps⟩ := exists_covers_dedupe hk
  exact ⟨kept, hkept, hkeeps.trans hcovers⟩

end StructureDerive.Obligation
