import StructureDerive.Catalog.Basic
import StructureDerive.Proofs.Outcome
import StructureDerive.Proofs.Writing

/-! # Faults on the way

A fault ends a whole run, so it matters which faults a step can meet. A cause turns into a fault
only when one of the values that its message shows cannot be written.
-/
namespace StructureDerive
variable {α β : Type} {cause : Cause} {fault : Fault}

/-- No arity of a catalog is too long for a message. -/
def Catalog.IsWritable (c : Catalog) : Prop := ∀ e ∈ c.entries, Numeral.isWritable e.arity

instance (c : Catalog) : Decidable c.IsWritable :=
  inferInstanceAs (Decidable (∀ e ∈ c.entries, Numeral.isWritable e.arity))

theorem Catalog.isWritable_of_lookup [Host] {c : Catalog} {kind : String}
    (h : c.lookup kind = .error cause) : cause.isWritable := by
  unfold Catalog.lookup at h
  split at h
  · cases h
  · cases h
    rfl

namespace Value
variable {v : Value}

theorem fields_eq_ok_iff {fields : List (Scalar × Value)} :
    v.fields = .ok fields ↔ v = .table fields := by
  cases v <;> simp [Value.fields]

theorem fields_eq_error_iff :
    v.fields = .error fault ↔ (∀ fields, v ≠ .table fields) ∧ fault = .notTable := by
  cases v <;> simp [Value.fields, eq_comm]

theorem elements_eq_ok_iff {items : List Value} :
    v.elements = .ok items ↔ v.elements? = some items := by
  unfold elements
  cases v.elements? <;> simp

theorem elements_eq_error_iff :
    v.elements = .error fault ↔ v.elements? = none ∧ fault = .notEnumerable := by
  unfold elements
  cases v.elements? <;> simp [eq_comm]

end Value

namespace Outcome
variable {allowed : Fault → Prop} {x : Except Failure α}

theorem liftM_fault_eq_fault_iff {y : Except Fault α} :
    (liftM y : Except Failure α) = .error (.fault fault) ↔ y = .error fault := by
  refine mapError_eq_error_iff.trans ⟨?_, fun h => ⟨fault, h, rfl⟩⟩
  rintro ⟨_, h, ⟨⟩⟩
  exact h

/-- A step meets no other faults than those allowed. -/
def FaultsIn (allowed : Fault → Prop) (x : Except Failure α) : Prop :=
  ∀ fault, x = .error (.fault fault) → allowed fault

theorem faultsIn_ok (a : α) : FaultsIn allowed (.ok a) := by
  intro fault h
  cases h

theorem faultsIn_pure (a : α) : FaultsIn allowed (pure a : Except Failure α) := faultsIn_ok a

theorem FaultsIn.bind {f : α → Except Failure β} (hx : FaultsIn allowed x)
    (hf : ∀ a, x = .ok a → FaultsIn allowed (f a)) : FaultsIn allowed (x >>= f) := by
  intro fault h
  rcases bind_eq_error_iff.mp h with h | ⟨a, ha, h⟩
  · exact hx fault h
  · exact hf a ha fault h

theorem faultsIn_liftM_fault {y : Except Fault α} (h : ∀ fault, y = .error fault → allowed fault) :
    FaultsIn allowed (liftM y : Except Failure α) := by
  intro fault hfault
  exact h fault (liftM_fault_eq_fault_iff.mp hfault)

theorem FaultsIn.mapM {γ : Type} {f : γ → Except Failure α} {cs : List γ}
    (hf : ∀ c ∈ cs, FaultsIn allowed (f c)) : FaultsIn allowed (cs.mapM f) := by
  intro fault h
  obtain ⟨before, c, after, rfl, _, hc⟩ := mapM_eq_error_iff.mp h
  exact hf c (by simp) fault hc

theorem FaultsIn.foldlM {γ : Type} {f : α → γ → Except Failure α} {cs : List γ}
    (hf : ∀ a, ∀ c ∈ cs, FaultsIn allowed (f a c)) (a : α) : FaultsIn allowed (cs.foldlM f a) := by
  induction cs generalizing a with
  | nil => exact faultsIn_pure a
  | cons c cs ih =>
    rw [List.foldlM_cons]
    exact (hf a c List.mem_cons_self).bind fun b _ =>
      ih (fun b d hd => hf b d (List.mem_cons_of_mem c hd)) b

end Outcome

variable [Host]

namespace Failure

theorem ofCause_of_isWritable (h : cause.isWritable) : ofCause cause = .cause cause := by
  rw [ofCause, Cause.isWritable_iff.mp h]
  rfl

theorem ofCause_eq_fault_iff : ofCause cause = .fault fault ↔ cause.obstacle? = some fault := by
  rw [ofCause]
  cases cause.obstacle? <;> simp

end Failure

namespace Outcome
variable {allowed : Fault → Prop} {x : Except Failure α}

theorem throw_ofCause_eq_fault_iff :
    (throw (Failure.ofCause cause) : Except Failure α) = .error (.fault fault) ↔
      cause.obstacle? = some fault := by
  rw [← Failure.ofCause_eq_fault_iff]
  exact ⟨Except.error.inj, congrArg Except.error⟩

theorem liftM_cause_eq_fault_iff {y : Except Cause α} :
    (liftM y : Except Failure α) = .error (.fault fault) ↔
      ∃ cause, y = .error cause ∧ cause.obstacle? = some fault := by
  simp only [← Failure.ofCause_eq_fault_iff]
  exact mapError_eq_error_iff

/-- A cause whose message can be written is never a fault. -/
theorem liftM_cause_ne_fault {y : Except Cause α}
    (h : ∀ cause, y = .error cause → cause.isWritable) :
    (liftM y : Except Failure α) ≠ .error (.fault fault) := by
  intro hfault
  obtain ⟨cause, hcause, hobstacle⟩ := liftM_cause_eq_fault_iff.mp hfault
  cases hobstacle.symm.trans (Cause.isWritable_iff.mp (h cause hcause))

/-- Whatever keeps values from being written is among the faults allowed. -/
def AllowsWriting (allowed : Fault → Prop) : Prop := ∀ fault, fault.IsOfWriting → allowed fault

theorem allowed_of_obstacle? (h : cause.isWritable ∨ AllowsWriting allowed)
    (hfault : cause.obstacle? = some fault) : allowed fault := by
  rcases h with h | h
  · cases hfault.symm.trans (Cause.isWritable_iff.mp h)
  · exact h fault (Cause.isOfWriting_of_obstacle? hfault)

theorem faultsIn_ofCause (h : cause.isWritable ∨ AllowsWriting allowed) :
    FaultsIn allowed (throw (Failure.ofCause cause) : Except Failure α) := fun _ hfault =>
  allowed_of_obstacle? h (throw_ofCause_eq_fault_iff.mp hfault)

theorem faultsIn_liftM_cause {y : Except Cause α}
    (h : (∀ cause, y = .error cause → cause.isWritable) ∨ AllowsWriting allowed) :
    FaultsIn allowed (liftM y : Except Failure α) := by
  intro fault hfault
  obtain ⟨cause, hcause, hobstacle⟩ := liftM_cause_eq_fault_iff.mp hfault
  exact allowed_of_obstacle? (h.imp_left fun hw => hw cause hcause) hobstacle

end Outcome
end StructureDerive
