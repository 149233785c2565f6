import StructureDerive.Cause

/-! # Values that can be written

A value is written item by item, so what can be written holds nothing that cannot. What keeps a value
from being written is an integer in it with too many digits, or its depth.
-/
namespace StructureDerive
variable {fault : Fault}

def Fault.IsOfWriting (f : Fault) : Prop := f = .tooManyDigits ∨ f = .tooDeep

namespace Numeral

theorem isWritable_zero : isWritable 0 := by decide +kernel

theorem isWritable_unwritable : isWritable unwritable = false := by decide +kernel

end Numeral

theorem Scalar.obstacle?_int_eq_none_iff {n : Int} :
    (Scalar.int n).obstacle? = none ↔ Numeral.isWritable n := by
  rw [Scalar.obstacle?]
  split <;> simp [*]

theorem Scalar.obstacle?_unwritable :
    (Scalar.int Numeral.unwritable).obstacle? = some .tooManyDigits := by
  rw [obstacle?, Numeral.isWritable_unwritable]
  rfl

theorem Scalar.isOfWriting_of_obstacle? {s : Scalar} (h : s.obstacle? = some fault) :
    fault.IsOfWriting := by
  unfold obstacle? at h
  split at h
  · split at h <;> cases h
    exact Or.inl rfl
  · cases h

namespace Value
variable {v : Value} {items : List Value} {scalars : List Scalar} {fields : List (Scalar × Value)}
variable {depth : Nat}

theorem obstacleInItems_eq_none_iff : obstacleInItems depth items = none ↔
    ∀ v ∈ items, 0 < depth ∧ v.obstacleWithin (depth - 1) = none := by
  induction items with
  | nil => simp [obstacleInItems]
  | cons v items ih =>
    rw [obstacleInItems, List.forall_mem_cons, ← ih]
    by_cases hdepth : depth = 0
    · simp [hdepth]
    · simp [hdepth, Nat.pos_of_ne_zero hdepth]

theorem obstacleInFields_eq_none_iff : obstacleInFields depth fields = none ↔
    ∀ f ∈ fields, 0 < depth ∧ f.1.obstacle? = none ∧ f.2.obstacleWithin (depth - 1) = none := by
  induction fields with
  | nil => simp [obstacleInFields]
  | cons f fields ih =>
    obtain ⟨k, v⟩ := f
    rw [obstacleInFields, List.forall_mem_cons, ← ih]
    by_cases hdepth : depth = 0
    · simp [hdepth]
    · simp [hdepth, Nat.pos_of_ne_zero hdepth, and_assoc]

theorem obstacleWithin_set_eq_none_iff : (set scalars).obstacleWithin depth = none ↔
    ∀ s ∈ scalars, 2 ≤ depth ∧ s.obstacle? = none := by
  rw [obstacleWithin]
  cases scalars with
  | nil => simp
  | cons s scalars =>
    by_cases hdepth : depth < 2
    · simp only [List.isEmpty_cons, hdepth, Bool.false_eq_true, ↓reduceIte]
      refine iff_of_false nofun fun h => ?_
      obtain ⟨hle, _⟩ := h s List.mem_cons_self
      omega
    · simp [hdepth, Nat.not_lt.mp hdepth, List.findSome?_eq_none_iff]

mutual

/-- With more steps down, no less can be written. -/
theorem obstacleWithin_mono {depth deeper : Nat} (hle : depth ≤ deeper) :
    ∀ v : Value, v.obstacleWithin depth = none → v.obstacleWithin deeper = none
  | scalar _, h => h
  | list items, h => obstacleInItems_mono hle items h
  | tuple items, h => obstacleInItems_mono hle items h
  | set items, h => by
    rw [obstacleWithin_set_eq_none_iff] at h ⊢
    exact fun s hs => ⟨Nat.le_trans (h s hs).1 hle, (h s hs).2⟩
  | table fields, h => obstacleInFields_mono hle fields h

theorem obstacleInItems_mono {depth deeper : Nat} (hle : depth ≤ deeper) :
    ∀ items, obstacleInItems depth items = none → obstacleInItems deeper items = none
  | [], _ => rfl
  | v :: items, h => by
    simp only [obstacleInItems_eq_none_iff, List.forall_mem_cons] at h
    obtain ⟨⟨hpos, hv⟩, hitems⟩ := h
    have hrest := obstacleInItems_mono hle items (obstacleInItems_eq_none_iff.mpr hitems)
    rw [obstacleInItems_eq_none_iff, List.forall_mem_cons]
    exact ⟨⟨Nat.lt_of_lt_of_le hpos hle, obstacleWithin_mono (Nat.sub_le_sub_right hle 1) v hv⟩,
      obstacleInItems_eq_none_iff.mp hrest⟩

theorem obstacleInFields_mono {depth deeper : Nat} (hle : depth ≤ deeper) :
    ∀ fields, obstacleInFields depth fields = none → obstacleInFields deeper fields = none
  | [], _ => rfl
  | (k, v) :: fields, h => by
    simp only [obstacleInFields_eq_none_iff, List.forall_mem_cons] at h
    obtain ⟨⟨hpos, hk, hv⟩, hfields⟩ := h
    have hrest := obstacleInFields_mono hle fields (obstacleInFields_eq_none_iff.mpr hfields)
    rw [obstacleInFields_eq_none_iff, List.forall_mem_cons]
    exact ⟨⟨Nat.lt_of_lt_of_le hpos hle, hk, obstacleWithin_mono (Nat.sub_le_sub_right hle 1) v hv⟩,
      obstacleInFields_eq_none_iff.mp hrest⟩

end

mutual

theorem isOfWriting_of_obstacleWithin (depth : Nat) :
    ∀ v : Value, v.obstacleWithin depth = some fault → fault.IsOfWriting
  | scalar _, h => Scalar.isOfWriting_of_obstacle? h
  | list items, h => isOfWriting_of_obstacleInItems depth items h
  | tuple items, h => isOfWriting_of_obstacleInItems depth items h
  | set items, h => by
    rw [obstacleWithin] at h
    split at h
    · cases h
    · split at h
      · cases h
        exact Or.inr rfl
      · obtain ⟨s, _, hs⟩ := List.exists_of_findSome?_eq_some h
        exact Scalar.isOfWriting_of_obstacle? hs
  | table fields, h => isOfWriting_of_obstacleInFields depth fields h

theorem isOfWriting_of_obstacleInItems (depth : Nat) :
    ∀ items, obstacleInItems depth items = some fault → fault.IsOfWriting
  | [], h => by cases h
  | v :: items, h => by
    rw [obstacleInItems] at h
    split at h
    · cases h
      exact Or.inr rfl
    · rcases Option.or_eq_some_iff.mp h with h | ⟨_, h⟩
      · exact isOfWriting_of_obstacleWithin (depth - 1) v h
      · exact isOfWriting_of_obstacleInItems depth items h

theorem isOfWriting_of_obstacleInFields (depth : Nat) :
    ∀ fields, obstacleInFields depth fields = some fault → fault.IsOfWriting
  | [], h => by cases h
  | (k, v) :: fields, h => by
    rw [obstacleInFields] at h
    split at h
    · cases h
      exact Or.inr rfl
    · rcases Option.or_eq_some_iff.mp h with h | ⟨_, h⟩
      · rcases Option.or_eq_some_iff.mp h with h | ⟨_, h⟩
        · exact Scalar.isOfWriting_of_obstacle? h
        · exact isOfWriting_of_obstacleWithin (depth - 1) v h
      · exact isOfWriting_of_obstacleInFields depth fields h

end

variable [Host]

def isWritable (v : Value) : Bool := v.obstacle?.isNone

theorem isWritable_iff : v.isWritable ↔ v.obstacle? = none := Option.isNone_iff_eq_none

theorem isOfWriting_of_obstacle? (h : v.obstacle? = some fault) : fault.IsOfWriting :=
  isOfWriting_of_obstacleWithin _ v h

theorem isWritable_of_obstacleInItems {v : Value}
    (h : obstacleInItems Host.depthLimit items = none) (hv : v ∈ items) : v.isWritable :=
  isWritable_iff.mpr <|
    obstacleWithin_mono (Nat.sub_le _ 1) v (obstacleInItems_eq_none_iff.mp h v hv).2

theorem isWritable_of_mem_sequence? (h : v.isWritable) (hitems : v.sequence? = some items)
    {item : Value} (hitem : item ∈ items) : item.isWritable := by
  have hnone := isWritable_iff.mp h
  unfold sequence? at hitems
  split at hitems <;> cases hitems
  · exact isWritable_of_obstacleInItems hnone hitem
  · exact isWritable_of_obstacleInItems hnone hitem

theorem isWritable_of_mem_table (h : (table fields).isWritable) {f : Scalar × Value}
    (hf : f ∈ fields) : (scalar f.1).isWritable ∧ f.2.isWritable := by
  obtain ⟨_, hk, hv⟩ := obstacleInFields_eq_none_iff.mp (isWritable_iff.mp h) f hf
  exact ⟨isWritable_iff.mpr hk, isWritable_iff.mpr (obstacleWithin_mono (Nat.sub_le _ 1) f.2 hv)⟩

theorem plainText_eq_ok_iff {s : String} : v.plainText = .ok s ↔ v.isWritable ∧ v.plain = s := by
  rw [isWritable_iff, plainText]
  cases v.obstacle? <;> simp

theorem plainText_eq_error_iff : v.plainText = .error fault ↔ v.obstacle? = some fault := by
  rw [plainText]
  cases v.obstacle? <;> simp

end Value

namespace Cause
variable [Host] {cause : Cause}

def isWritable (cause : Cause) : Bool := cause.obstacle?.isNone

theorem isWritable_iff : cause.isWritable ↔ cause.obstacle? = none := Option.isNone_iff_eq_none

theorem isOfWriting_of_obstacle? (h : cause.obstacle? = some fault) : fault.IsOfWriting := by
  cases cause with
  | arityMismatch kind expected actual =>
    rw [obstacle?] at h
    rcases Option.or_eq_some_iff.mp h with h | ⟨_, h⟩ <;> exact Scalar.isOfWriting_of_obstacle? h
  | malformedWhere given => exact Value.isOfWriting_of_obstacle? h
  | malformedOperator kind given => exact Value.isOfWriting_of_obstacle? h
  | malformedInstantiation issue =>
    rw [obstacle?] at h
    unfold InstantiationIssue.obstacle? at h
    split at h
    · exact Value.isOfWriting_of_obstacle? h
    · exact Value.isOfWriting_of_obstacle? h
    · exact Value.isOfWriting_of_obstacle? h
    · cases h
  | declaration issue =>
    rw [obstacle?] at h
    unfold DeclarationIssue.obstacle? at h
    split at h
    · exact Value.isOfWriting_of_obstacle? h
    · exact Value.isOfWriting_of_obstacle? h
    · exact Value.isOfWriting_of_obstacle? h
    · exact Scalar.isOfWriting_of_obstacle? h
    · cases h
  | _ => cases h

end Cause
end StructureDerive
