import StructureDerive.Host.Terminal
import StructureDerive.Proofs.GuardDecision
import StructureDerive.Proofs.PlainText
import StructureDerive.Proofs.Table
import StructureDerive.Proofs.Writing

/-! # Guards from a table

A field of a guard table is found by the label of an implementation, and its value as a text decides
the guard: a blank text takes it away, and any other text names the operator. A missing value is
written as a text too, and so it names an operator instead of taking the guard away.
-/
namespace StructureDerive
open Outcome
variable {fields : List (Scalar × Value)} {p : GuardPolicy} {o : Obligation}
variable {v : Value} {k : Scalar}

theorem Obligation.getLast?_label (o : Obligation) : o.label.toList.getLast? = some ')' := by
  have hlabel : o.label.toList = (o.kind ++ "(" ++ commaList o.operators).toList ++ [')'] := by
    simp [label, toString_text]
  rw [hlabel, List.getLast?_concat]

theorem Obligation.label_ne_enabled (o : Obligation) : o.label ≠ "enabled" := fun h => by
  have hlast := o.getLast?_label
  rw [h] at hlast
  revert hlast
  decide

/-- A key that is no text is never written like the label of an implementation. -/
theorem Scalar.plain_eq_label_iff [Host] : k.plain = o.label ↔ k = .text o.label := by
  constructor
  · intro h
    by_cases htext : ∃ t, k = .text t
    · obtain ⟨t, rfl⟩ := htext
      exact congrArg Scalar.text h
    · have hlast := getLast?_plain_ne_paren fun t ht => htext ⟨t, ht⟩
      rw [h] at hlast
      exact absurd o.getLast?_label hlast
  · rintro rfl
    rfl

namespace GuardPolicy

/-- The fields of a table that are overrides. -/
def overrideFields (fields : List (Scalar × Value)) : List (Scalar × Value) :=
  fields.filter (·.1 ≠ .text "enabled")

theorem mem_overrideFields_iff {f : Scalar × Value} :
    f ∈ overrideFields fields ↔ f ∈ fields ∧ f.1 ≠ .text "enabled" := by
  simp [overrideFields]

theorem ofOperator?_nonBlank? (s : String) : Guard.ofOperator? (Text.nonBlank? s) =
    if Text.allBlank s then none else some ⟨Text.strip s⟩ := by
  rw [Text.nonBlank?]
  split
  · rfl
  · rename_i hvisible
    have hne : Text.strip s ≠ "" := mt Text.strip_eq_empty_iff.mp hvisible
    simp [Guard.ofOperator?, hne]

section
variable [Host]

/-- Whether a guard is what a value asks for: none for a missing value or a blank text, and else a
guard by the operator that the value names. -/
structure Says (v : Value) (guard : Option Guard) : Prop where
  none_iff : guard = none ↔ v = .null ∨ ∃ s, v = .text s ∧ Text.allBlank s
  operator : ∀ g ∈ guard, g.operator = Text.strip v.plain

/-- A table is read when the keys and values of its overrides can be written. -/
theorem ofFields_eq_ok_iff : ofFields fields = .ok p ↔
    (∀ f ∈ overrideFields fields, (Value.scalar f.1).isWritable ∧ f.2.isWritable) ∧
      p = { enabled := ((Value.lookup fields "enabled").map Value.truth).getD true
            overrides := (overrideFields fields).map fun f =>
              (f.1.plain, Text.nonBlank? f.2.plain) } := by
  have hstep : ∀ (f : Scalar × Value) y, (do
      return (← (Value.scalar f.1).plainText, Text.nonBlank? (← f.2.plainText)) :
        Except Fault (String × Option String)) = .ok y ↔
      ((Value.scalar f.1).isWritable ∧ f.2.isWritable) ∧
        (f.1.plain, Text.nonBlank? f.2.plain) = y := by
    intro f y
    simp only [bind_eq_ok_iff, Value.plainText_eq_ok_iff, pure, Except.pure, Except.ok.injEq]
    constructor
    · rintro ⟨_, ⟨hkey, rfl⟩, _, ⟨hvalue, rfl⟩, rfl⟩
      exact ⟨⟨hkey, hvalue⟩, rfl⟩
    · rintro ⟨⟨hkey, hvalue⟩, rfl⟩
      exact ⟨_, ⟨hkey, rfl⟩, _, ⟨hvalue, rfl⟩, rfl⟩
  unfold ofFields
  rw [bind_eq_ok_iff]
  constructor
  · rintro ⟨overrides, hoverrides, hp⟩
    obtain ⟨hwritable, rfl⟩ := (mapM_eq_ok_iff_of_steps hstep).mp hoverrides
    exact ⟨hwritable, (Except.ok.inj hp).symm⟩
  · rintro ⟨hwritable, rfl⟩
    exact ⟨_, (mapM_eq_ok_iff_of_steps hstep).mpr ⟨hwritable, rfl⟩, rfl⟩

/-- The override under a label is the value under that key, wherever it stands in the table. -/
theorem override?_of_ofFields (hkeys : Value.KeysDiffer fields) (h : ofFields fields = .ok p)
    (o : Obligation) : p.override? o.label =
      (Value.lookup fields o.label).map fun v => Text.nonBlank? v.plain := by
  obtain ⟨_, rfl⟩ := ofFields_eq_ok_iff.mp h
  -- no key of another kind is written like a label, so that overrides cannot hide each other
  have hfind : ∀ f : Scalar × Value, (f.1 ≠ .text "enabled" ∧ f.1.plain = o.label) ↔
      f.1 = .text o.label := by
    intro f
    rw [Scalar.plain_eq_label_iff]
    refine ⟨And.right, fun hf => ⟨fun henabled => ?_, hf⟩⟩
    exact o.label_ne_enabled (Scalar.text.inj (hf.symm.trans henabled))
  calc GuardPolicy.override? _ o.label
      = (fields.reverse.find? (·.1 = .text o.label)).map fun f => Text.nonBlank? f.2.plain := by
        rw [override?, overrideFields, ← List.map_reverse, ← List.filter_reverse, List.find?_map,
          List.find?_filter]
        simp [Function.comp_def, hfind]
    _ = (Value.lookup fields.reverse o.label).map fun v => Text.nonBlank? v.plain := by
        rw [Value.lookup, Option.map_map]
        rfl
    _ = (Value.lookup fields o.label).map fun v => Text.nonBlank? v.plain := by
        rw [Value.lookup_reverse hkeys]

theorem guardFor_of_lookup (hkeys : Value.KeysDiffer fields) (h : ofFields fields = .ok p)
    (hon : p.enabled = true) (hv : Value.lookup fields o.label = some v) (e : Entry) :
    p.guardFor o e = if Text.allBlank v.plain then none else some ⟨Text.strip v.plain⟩ := by
  rw [guardFor, if_pos hon, override?_of_ofFields hkeys h, hv]
  exact ofOperator?_nonBlank? v.plain

theorem guardFor_of_lookup_none (hkeys : Value.KeysDiffer fields) (h : ofFields fields = .ok p)
    (hon : p.enabled = true) (hv : Value.lookup fields o.label = none) (e : Entry) :
    p.guardFor o e = ({} : GuardPolicy).guardFor o e := by
  rw [guardFor, if_pos hon, override?_of_ofFields hkeys h, hv]
  rfl

theorem guard_of_null : (if Text.allBlank Value.null.plain then none
    else some ⟨Text.strip Value.null.plain⟩ : Option Guard) = some ⟨"None"⟩ := by
  have hplain : Value.null.plain = "None" := rfl
  rw [hplain]
  decide

/-- Only a missing value does not say what becomes of the guard. -/
theorem says_iff : Says v (if Text.allBlank v.plain then none else some ⟨Text.strip v.plain⟩) ↔
    v ≠ .null := by
  constructor
  · rintro ⟨hnone, _⟩ rfl
    cases guard_of_null.symm.trans (hnone.mpr (Or.inl rfl))
  · intro hnull
    split
    · rename_i hblank
      refine ⟨⟨fun _ => Or.inr (Value.allBlank_plain_iff.mp hblank), fun _ => rfl⟩, ?_⟩
      simp
    · rename_i hvisible
      refine ⟨⟨nofun, ?_⟩, ?_⟩
      · rintro (hv | hv)
        · exact absurd hv hnull
        · exact absurd (Value.allBlank_plain_iff.mpr hv) hvisible
      · rintro g ⟨⟩
        rfl

/-- A guard table is read when its overrides can be written, and the guard of an implementation is
then the one that the value under its label asks for, unless that value is missing: the word for it
is taken for an operator. Implementations whose label is no key are guarded by default. -/
theorem table_says_iff (hkeys : Value.KeysDiffer fields) :
    ((∃ p, ofValue (.table fields) = .ok p) ↔
      ∀ f ∈ fields, f.1 ≠ .text "enabled" →
        (Value.scalar f.1).isWritable ∧ f.2.isWritable) ∧
    ∀ p, ofValue (.table fields) = .ok p → p.enabled = true → ∀ (o : Obligation) (e : Entry),
      (∀ v, Value.lookup fields o.label = some v → (Says v (p.guardFor o e) ↔ v ≠ .null) ∧
        (v = .null → p.guardFor o e = some ⟨"None"⟩)) ∧
      (Value.lookup fields o.label = none →
        p.guardFor o e = ({} : GuardPolicy).guardFor o e) := by
  have hread : ∀ {p}, ofValue (.table fields) = .ok p ↔ ofFields fields = .ok p :=
    liftM_fault_eq_ok_iff
  refine ⟨?_, fun p hp hon o e => ⟨fun v hv => ?_, fun hv => ?_⟩⟩
  · simp only [hread, ofFields_eq_ok_iff, exists_and_left, exists_eq, and_true,
      mem_overrideFields_iff, and_imp]
  · rw [guardFor_of_lookup hkeys (hread.mp hp) hon hv]
    refine ⟨says_iff, ?_⟩
    rintro rfl
    exact guard_of_null
  · exact guardFor_of_lookup_none hkeys (hread.mp hp) hon hv e

end

attribute [local instance] Host.terminal

/-- A padded operator, a blank one, and a truth value, which is written as a text. -/
theorem table_says_of_padded :
    let fields : List (Scalar × Value) := [(.text "Quasigroup(Additive)", .text " "),
      (.text "Loop(ops::Add)", .bool false), (.text "enabled", .int 2),
      (.text "Quasigroup(Multiplicative)", .text " Additive\n")]
    let e : Entry := { kind := "Quasigroup", arity := 1, guarded := true }
    Value.KeysDiffer fields ∧ ∃ p, ofValue (.table fields) = .ok p ∧ p.enabled = true ∧
      Says (.text " ") (p.guardFor { kind := "Quasigroup", operators := ["Additive"] } e) ∧
      Says (.bool false) (p.guardFor { kind := "Loop", operators := ["ops::Add"] } e) ∧
      Says (.text " Additive\n")
        (p.guardFor { kind := "Quasigroup", operators := ["Multiplicative"] } e) := by
  intro fields e
  have hkeys : Value.KeysDiffer fields := by decide
  obtain ⟨hread, hguards⟩ := table_says_iff hkeys
  obtain ⟨p, hp⟩ := hread.mpr (by decide)
  have hon : p.enabled = true := by
    obtain ⟨_, rfl⟩ := ofFields_eq_ok_iff.mp (liftM_fault_eq_ok_iff.mp hp)
    rfl
  refine ⟨hkeys, p, hp, hon, ?_, ?_, ?_⟩
  · exact (((hguards p hp hon _ e).1 _ rfl).1).mpr nofun
  · exact (((hguards p hp hon _ e).1 _ rfl).1).mpr nofun
  · exact (((hguards p hp hon _ e).1 _ rfl).1).mpr nofun

/-- A missing value under a label names the operator `None`. -/
theorem missing_value_guards :
    let o : Obligation := { kind := "Quasigroup", operators := ["Multiplicative"] }
    let e : Entry := { kind := "Quasigroup", arity := 1, guarded := true }
    let fields : List (Scalar × Value) := [(.text o.label, .null)]
    Value.KeysDiffer fields ∧ ∃ p, ofValue (.table fields) = .ok p ∧ p.enabled = true ∧
      Value.lookup fields o.label = some .null ∧ p.guardFor o e = some ⟨"None"⟩ ∧
      ¬ Says .null (p.guardFor o e) := by
  intro o e fields
  let p : GuardPolicy := { overrides := [(o.label, some "None")] }
  have hp : ofValue (.table fields) = .ok p :=
    liftM_fault_eq_ok_iff.mpr (ofFields_eq_ok_iff.mpr ⟨by decide, by decide⟩)
  have hguard : p.guardFor o e = some ⟨"None"⟩ := by decide
  refine ⟨by decide, p, hp, rfl, rfl, hguard, fun hguards => ?_⟩
  have hnone := hguards.none_iff.mpr (Or.inl rfl)
  rw [hguard] at hnone
  cases hnone

end GuardPolicy
end StructureDerive
