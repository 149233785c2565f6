import StructureDerive.Generation.Derivation
import StructureDerive.Proofs.EntryGrammar
import StructureDerive.Proofs.Instantiation

/-! # Faults of the stages of a derivation

No stage of a derivation can meet a fault but that of a value that cannot be written, and only with
such a value among those that it is given. The other faults are excluded by what the stages before
have checked: requests have operators, and instantiations have a type for each parameter that takes
one.
-/
namespace StructureDerive
open Outcome
variable {c : Catalog} {allowed : Fault → Prop} {cause : Cause}

namespace Request
variable {r : Request} {rs : List Request}

theorem slotObligations_faultsIn {kinds : List String} {op companion : Option String}
    (hop : op ≠ none) : FaultsIn allowed
      (liftM (r.slotObligations kinds op companion) : Except Failure (List Obligation)) := by
  rw [slotObligations_eq_ok_iff.mpr ⟨fun hnone => absurd hnone hop, rfl⟩]
  exact faultsIn_ok _

variable [Host]

theorem expand_faultsIn (hops : r.operators ≠ [])
    (h : (c.IsWritable ∧ Numeral.isWritable r.operators.length) ∨ AllowsWriting allowed) :
    FaultsIn allowed (expand c r) := by
  unfold expand
  refine (faultsIn_liftM_cause (Or.inl fun _ => Catalog.isWritable_of_lookup)).bind fun e he => ?_
  have hentry := Catalog.lookup_eq_ok_iff.mp (liftM_cause_eq_ok_iff.mp he)
  dsimp only
  split
  · refine (faultsIn_ofCause ?_).bind fun _ hthrow => absurd hthrow throw_ne_ok
    refine h.imp_left fun ⟨hc, hcount⟩ => ?_
    have harity := Scalar.obstacle?_int_eq_none_iff.mpr (hc e (Catalog.mem_of_find? hentry).1)
    have hcount := Scalar.obstacle?_int_eq_none_iff.mpr hcount
    rw [Cause.isWritable_iff, Cause.obstacle?, harity, hcount]
    rfl
  · rename_i hlength
    have hlength := Decidable.not_not.mp hlength
    refine (slotObligations_faultsIn ?_).bind fun first _ => ?_
    · simpa using hops
    split
    · rename_i htwo
      -- the arity check has made sure of a second operator
      refine (slotObligations_faultsIn ?_).bind fun _ _ => faultsIn_pure _
      rw [ne_eq, List.getElem?_eq_none_iff]
      omega
    · exact faultsIn_pure _

theorem expandAll_faultsIn {target : Option String} (hrs : ∀ r ∈ rs, r.operators ≠ [])
    (h : (c.IsWritable ∧ ∀ r ∈ rs, Numeral.isWritable r.operators.length) ∨
      AllowsWriting allowed) : FaultsIn allowed (expandAll c rs target) := by
  unfold expandAll
  split
  · exact faultsIn_ofCause (Or.inl rfl)
  · refine FaultsIn.bind ?_ fun _ _ => faultsIn_pure _
    refine FaultsIn.bind ?_ fun _ _ => faultsIn_pure _
    exact FaultsIn.mapM fun r hr =>
      expand_faultsIn (hrs r hr) (h.imp_left fun ⟨hc, hcount⟩ => ⟨hc, hcount r hr⟩)

end Request

theorem Target.isWritable_of_stubs [Host] {t : Target} {obligations : List Obligation}
    (h : t.stubs c obligations = .error cause) : cause.isWritable := by
  obtain ⟨_, o, _, _, _, h⟩ := mapM_eq_error_iff.mp h
  rcases bind_eq_error_iff.mp h with h | ⟨_, _, ⟨⟩⟩
  exact Catalog.isWritable_of_lookup h

namespace GuardPolicy
variable [Host]

/-- Only a key or a value that cannot be written keeps a table from being read. -/
theorem ofFields_eq_error {fields : List (Scalar × Value)} {fault : Fault}
    (h : ofFields fields = .error fault) :
    (Value.table fields).isWritable = false ∧ fault.IsOfWriting := by
  rcases bind_eq_error_iff.mp h with h | ⟨_, _, ⟨⟩⟩
  obtain ⟨before, f, after, hfields, _, h⟩ := mapM_eq_error_iff.mp h
  have hf : f ∈ fields :=
    List.mem_of_mem_filter (hfields ▸ List.mem_append_right before List.mem_cons_self)
  obtain ⟨v, hv, hfault⟩ : ∃ v : Value, ((Value.table fields).isWritable → v.isWritable) ∧
      v.plainText = .error fault := by
    rcases bind_eq_error_iff.mp h with h | ⟨_, _, h⟩
    · exact ⟨.scalar f.1, fun hall => (Value.isWritable_of_mem_table hall hf).1, h⟩
    · rcases bind_eq_error_iff.mp h with h | ⟨_, _, ⟨⟩⟩
      exact ⟨_, fun hall => (Value.isWritable_of_mem_table hall hf).2, h⟩
  have hobstacle := Value.plainText_eq_error_iff.mp hfault
  refine ⟨Bool.eq_false_iff.mpr fun hall => ?_, Value.isOfWriting_of_obstacle? hobstacle⟩
  cases hobstacle.symm.trans (Value.isWritable_iff.mp (hv hall))

theorem ofValue_faultsIn {given : Value} (h : given.isWritable ∨ AllowsWriting allowed) :
    FaultsIn allowed (ofValue given) := by
  unfold ofValue
  split
  · exact faultsIn_pure _
  · exact faultsIn_pure _
  · refine faultsIn_liftM_fault fun fault hfault => ?_
    obtain ⟨hunwritable, hwriting⟩ := ofFields_eq_error hfault
    exact h.resolve_left (by simp [hunwritable]) fault hwriting
  · exact faultsIn_ofCause (Or.inl rfl)

end GuardPolicy

namespace TestPlan
variable {p : TestPlan} {o : Obligation} {entry : Entry} {law : Law} {tests : List LawTest}
variable {instantiation : Option (List String)} {instantiations : List (List String)}

/-- An instantiation with a type for each parameter that takes one, or none at all. -/
def Fills (p : TestPlan) (instantiation : Option (List String)) : Prop :=
  ∀ types ∈ instantiation, p.target.generics.instantiable.length ≤ types.length

theorem test_isOk (o : Obligation) (entry : Entry) (law : Law) (h : p.Fills instantiation) :
    ∃ t, p.test o entry law instantiation = .ok t := by
  have htype : ∃ type, p.target.typeWith instantiation = .ok type := by
    cases instantiation with
    | none => exact ⟨_, rfl⟩
    | some types => exact Target.typeWith_isOk_iff.mpr (h types rfl)
  obtain ⟨type, htype⟩ := htype
  exact ⟨_, bind_eq_ok_iff.mpr ⟨type, htype, rfl⟩⟩

theorem fills_of_mem_rows
    (h : ∀ types ∈ instantiations, p.target.generics.instantiable.length ≤ types.length)
    (hrow : instantiation ∈ rows instantiations) : p.Fills instantiation := by
  unfold rows at hrow
  split at hrow
  · rw [List.mem_singleton.mp hrow]
    nofun
  · obtain ⟨types, htypes, rfl⟩ := List.mem_map.mp hrow
    rintro _ ⟨⟩
    exact h types htypes

variable [Host]

theorem isWritable_of_add {t : LawTest} (h : p.add tests t = .error cause) : cause.isWritable := by
  unfold add at h
  split at h <;> cases h
  unfold collision
  split <;> rfl

theorem addRow_faultsIn (h : p.Fills instantiation) :
    FaultsIn allowed (p.addRow o entry law tests instantiation) := by
  obtain ⟨t, ht⟩ := test_isOk o entry law h
  unfold addRow
  rw [ht]
  exact faultsIn_liftM_cause (Or.inl fun _ => isWritable_of_add)

theorem matrix_faultsIn {obligations : List Obligation}
    (h : ∀ types ∈ instantiations, p.target.generics.instantiable.length ≤ types.length) :
    FaultsIn allowed (p.matrix c obligations instantiations) := by
  refine FaultsIn.foldlM (fun tests o _ => ?_) []
  refine (faultsIn_liftM_cause (Or.inl fun _ => Catalog.isWritable_of_lookup)).bind fun e _ => ?_
  refine FaultsIn.foldlM (fun tests law _ => ?_) tests
  exact FaultsIn.foldlM (fun tests row hrow => addRow_faultsIn (fills_of_mem_rows h hrow)) tests

end TestPlan

namespace Declaration
variable {d : Declaration} {options : Options} {withTests : Bool}

/-- The instantiations of a target are read as they are, and there are some if it needs them. -/
theorem instantiationsFor_eq_ok {rows : List (List String)} (h : d.instantiationsFor = .ok rows) :
    Instantiation.parse (.list d.instantiations) d.target.generics = .ok rows ∧
      (rows = [] → d.target.generics.instantiable = []) := by
  unfold instantiationsFor at h
  obtain ⟨read, hread, h⟩ := bind_eq_ok_iff.mp h
  split at h
  · cases h
  · rename_i hmissing
    cases h
    refine ⟨hread, ?_⟩
    rintro rfl
    simpa using hmissing

theorem length_of_mem_instantiationsFor {rows : List (List String)} {row : List String}
    (h : d.instantiationsFor = .ok rows) (hrow : row ∈ rows) :
    row.length = d.target.generics.instantiable.length := by
  obtain ⟨_, hgiven⟩ := Instantiation.exists_ofValue_of_parse (instantiationsFor_eq_ok h).1 hrow
  exact Instantiation.length_of_ofValue hgiven

variable [Host]

/-- All values in a declaration can be written, and so can the number of operators of each argument. -/
structure IsWritable (d : Declaration) : Prop where
  arguments : ∀ e ∈ d.entries, e.argument.isWritable
  counts : ∀ e ∈ d.entries, Numeral.isWritable e.argument.operatorTexts.length
  instantiations : ∀ v ∈ d.instantiations, v.isWritable
  guard : d.guard.isWritable

theorem isWritable_of_instantiationsFor (h : d.instantiationsFor = .error cause)
    (hd : ∀ v ∈ d.instantiations, v.isWritable) : cause.isWritable := by
  unfold instantiationsFor at h
  simp only [bind_eq_error_iff] at h
  rcases h with h | ⟨_, _, h⟩
  · obtain ⟨before, v, after, heq, _, h⟩ := mapM_eq_error_iff.mp h
    exact Instantiation.isWritable_of_ofValue h (hd v (heq ▸ by simp))
  · split at h <;> cases h
    rfl

/-- Whatever the settings, the plan is for the target itself. -/
theorem testPlan_target {plan : TestPlan} (h : d.testPlan options = .ok plan) :
    plan.target = d.target := by
  unfold testPlan at h
  dsimp only at h
  split at h
  · obtain ⟨_, _, ⟨⟩⟩ := bind_eq_ok_iff.mp h
    rfl
  · obtain ⟨_, _, ⟨⟩⟩ := bind_eq_ok_iff.mp h
    rfl

theorem testPlan_faultsIn (h : d.guard.isWritable ∨ AllowsWriting allowed) :
    FaultsIn allowed (d.testPlan options) := by
  unfold testPlan
  dsimp only
  split
  · exact (faultsIn_pure _).bind fun _ _ => faultsIn_pure _
  · exact (GuardPolicy.ofValue_faultsIn h).bind fun _ _ => faultsIn_pure _

theorem lawTests_faultsIn {obligations : List Obligation}
    (h : d.IsWritable ∨ AllowsWriting allowed) :
    FaultsIn allowed (d.lawTests c options obligations) := by
  refine (faultsIn_liftM_cause (h.imp_left fun hd _ hcause =>
    isWritable_of_instantiationsFor hcause hd.instantiations)).bind fun rows hrows => ?_
  refine (testPlan_faultsIn (h.imp_left (·.guard))).bind fun plan hplan => ?_
  refine TestPlan.matrix_faultsIn fun row hrow => ?_
  rw [testPlan_target hplan]
  exact (length_of_mem_instantiationsFor (liftM_cause_eq_ok_iff.mp hrows) hrow).ge

theorem derive_faultsIn (h : (c.IsWritable ∧ d.IsWritable) ∨ AllowsWriting allowed) :
    FaultsIn allowed (d.derive c options withTests) := by
  refine (faultsIn_liftM_cause (h.imp_left fun ⟨hc, hd⟩ _ hcause =>
    TraitEntry.isWritable_of_requests hcause hd.arguments hc)).bind fun rs hrs => ?_
  have hrs := liftM_cause_eq_ok_iff.mp hrs
  refine FaultsIn.bind ?_ fun obligations _ => ?_
  · refine Request.expandAll_faultsIn (fun r hr => ?_)
      (h.imp_left fun ⟨hc, hd⟩ => ⟨hc, fun r hr => ?_⟩)
    · obtain ⟨e, _, hops, heq⟩ := TraitEntry.exists_entry_of_mem_requests hrs hr
      rw [heq]
      exact TraitEntry.operatorTexts_ne_nil hops
    · obtain ⟨e, he, _, heq⟩ := TraitEntry.exists_entry_of_mem_requests hrs hr
      rw [heq]
      exact hd.counts e he
  refine (faultsIn_liftM_cause (Or.inl fun _ => Target.isWritable_of_stubs)).bind fun stubs _ => ?_
  dsimp only
  split
  · exact (lawTests_faultsIn (h.imp_left (·.2))).bind fun _ _ => faultsIn_pure _
  · exact (faultsIn_pure _).bind fun _ _ => faultsIn_pure _

end Declaration
end StructureDerive
