import Mathlib.Data.List.Basic
import StructureDerive.Value

/-! # Tables

No two fields of a table have equal keys: writing a field replaces the value under an equal key. So
a key has one value, wherever the search for it begins.
-/
namespace StructureDerive.Value
variable {fields : List (Scalar × Value)} {key other : String} {k : Scalar} {v w : Value}

def KeysDiffer (fields : List (Scalar × Value)) : Prop :=
  fields.Pairwise fun f g => f.1.sameKey g.1 = false

instance (fields : List (Scalar × Value)) : Decidable (KeysDiffer fields) :=
  inferInstanceAs (Decidable (fields.Pairwise fun f g => f.1.sameKey g.1 = false))

theorem text?_eq_some_iff {s : String} : v.text? = some s ↔ v = .text s := by
  constructor
  · intro h
    unfold text? at h
    split at h
    · cases h
      rfl
    · cases h
  · rintro rfl
    rfl

theorem sameKey_text_iff : k.sameKey (.text key) = true ↔ k = .text key := by
  have hnone : (Scalar.text key).toInt? = none := rfl
  have hunfold : k.sameKey (.text key) = (k == .text key) := by
    rw [Scalar.sameKey, hnone]
    cases k.toInt? <;> rfl
  rw [hunfold, beq_iff_eq]

theorem sameKey_comm (k l : Scalar) : k.sameKey l = l.sameKey k := by
  unfold Scalar.sameKey
  cases k.toInt? with
  | none => cases l.toInt? <;> exact Bool.beq_comm
  | some m => cases l.toInt? <;> exact Bool.beq_comm

theorem lookup_cons_self : lookup ((.text key, v) :: fields) key = some v := by
  simp [lookup]

theorem lookup_cons_of_ne (h : k ≠ .text key) :
    lookup ((k, v) :: fields) key = lookup fields key := by
  simp [lookup, h]

theorem mem_of_lookup (h : lookup fields key = some v) : (.text key, v) ∈ fields := by
  obtain ⟨⟨k, w⟩, hfind, rfl⟩ := Option.map_eq_some_iff.mp h
  have hkey : k = .text key := by simpa using List.find?_some hfind
  rw [← hkey]
  exact List.mem_of_find?_eq_some hfind

theorem lookup_eq_some_iff (h : KeysDiffer fields) :
    lookup fields key = some v ↔ (.text key, v) ∈ fields := by
  refine ⟨mem_of_lookup, fun hmem => ?_⟩
  induction fields with
  | nil => cases hmem
  | cons f fields ih =>
    obtain ⟨k, w⟩ := f
    obtain ⟨hfirst, hrest⟩ := List.pairwise_cons.mp h
    rcases List.mem_cons.mp hmem with heq | hmem
    · cases heq
      exact lookup_cons_self
    · have hne : k ≠ .text key := fun heq => by
        have hsame := hfirst _ hmem
        rw [sameKey_text_iff.mpr heq] at hsame
        cases hsame
      rw [lookup_cons_of_ne hne]
      exact ih hrest hmem

theorem KeysDiffer.reverse (h : KeysDiffer fields) : KeysDiffer fields.reverse :=
  List.pairwise_reverse.mpr (h.imp fun {f g} hfg => (sameKey_comm g.1 f.1).trans hfg)

theorem lookup_reverse (h : KeysDiffer fields) (key : String) :
    lookup fields.reverse key = lookup fields key := by
  apply Option.ext
  intro v
  rw [lookup_eq_some_iff h.reverse, lookup_eq_some_iff h, List.mem_reverse]

theorem lookup_assign_self (fields : List (Scalar × Value)) (key : String) (v : Value) :
    lookup (assign fields (.text key) v) key = some v := by
  induction fields with
  | nil => exact lookup_cons_self
  | cons f fields ih =>
    rw [assign]
    split
    · rename_i hsame
      rw [sameKey_text_iff.mp hsame]
      exact lookup_cons_self
    · rename_i hother
      rw [lookup_cons_of_ne fun heq => hother (sameKey_text_iff.mpr heq)]
      exact ih

theorem lookup_assign_of_ne (h : other ≠ key) (fields : List (Scalar × Value)) (v : Value) :
    lookup (assign fields (.text key) v) other = lookup fields other := by
  have hne : Scalar.text key ≠ .text other := fun heq => h (Scalar.text.inj heq).symm
  induction fields with
  | nil => exact lookup_cons_of_ne hne
  | cons f fields ih =>
    rw [assign]
    split
    · rename_i hsame
      have hkey : f.1 = .text key := sameKey_text_iff.mp hsame
      rw [lookup_cons_of_ne (hkey ▸ hne), lookup_cons_of_ne (hkey ▸ hne)]
    · by_cases hf : f.1 = .text other
      · obtain ⟨k, w⟩ := f
        cases hf
        rw [lookup_cons_self, lookup_cons_self]
      · rw [lookup_cons_of_ne hf, lookup_cons_of_ne hf]
        exact ih

end StructureDerive.Value
