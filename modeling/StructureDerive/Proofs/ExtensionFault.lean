import StructureDerive.Proofs.Consistency
import StructureDerive.Proofs.Fault

/-! # Faults of an extension

An inconsistent catalog is turned down with a list of its inconsistencies. Of all values in their
texts only an arity can be too long to be written, and then the arity is out of range too.
-/
namespace StructureDerive.Catalog
open Outcome
variable {c : Catalog} {e : Entry} {slot : Slot} {extra : List Entry} {arity : Int}
variable {kind subject dependency : String} {fault : Fault}

theorem arity_not_mem_closure {inherited own : List String} :
    .arityOutOfRange kind arity ∉ closure subject slot dependency inherited own := by
  unfold closure
  dsimp only
  split <;> simp

theorem arity_not_mem_checkDependency {close : Entry → String → List Inconsistency}
    (h : ∀ d name, .arityOutOfRange kind arity ∉ close d name) :
    .arityOutOfRange kind arity ∉ c.checkDependency e slot close dependency := by
  unfold checkDependency
  split
  · simp
  · split
    · simp
    · exact h _ dependency

theorem arity_not_mem_checkSlot : .arityOutOfRange kind arity ∉ c.checkSlot e slot := by
  intro h
  obtain ⟨dependency, _, h⟩ := List.mem_flatMap.mp h
  exact arity_not_mem_checkDependency (fun _ _ => arity_not_mem_closure) h

theorem arity_not_mem_checkJoint : .arityOutOfRange kind arity ∉ c.checkJoint e := by
  intro h
  obtain ⟨dependency, _, h⟩ := List.mem_flatMap.mp h
  refine arity_not_mem_checkDependency (fun d name h => ?_) h
  obtain ⟨slot, _, h⟩ := List.mem_flatMap.mp h
  exact arity_not_mem_closure h

theorem arity_mem_checkEntry_iff : .arityOutOfRange kind arity ∈ c.checkEntry e ↔
    (e.arity ≠ 1 ∧ e.arity ≠ 2) ∧ kind = e.kind ∧ arity = e.arity := by
  unfold checkEntry
  split
  · rename_i hrange
    simp [hrange]
  · rename_i hrange
    simp [hrange, arity_not_mem_checkSlot, arity_not_mem_checkJoint]

theorem intText_eq_error_iff {n : Int} :
    intText n = .error fault ↔ Numeral.isWritable n = false ∧ fault = .tooManyDigits := by
  unfold intText
  cases Numeral.isWritable n <;> simp [eq_comm]

theorem text_eq_error_iff {problem : Inconsistency} : problem.text = .error fault ↔
    (∃ kind arity, problem = .arityOutOfRange kind arity ∧ Numeral.isWritable arity = false) ∧
      fault = .tooManyDigits := by
  cases problem with
  | arityOutOfRange kind arity =>
    rw [Inconsistency.text, bind_eq_error_iff, intText_eq_error_iff]
    constructor
    · rintro (⟨hunwritable, rfl⟩ | ⟨_, _, ⟨⟩⟩)
      exact ⟨⟨kind, arity, rfl, hunwritable⟩, rfl⟩
    · rintro ⟨⟨_, _, ⟨⟩, hunwritable⟩, rfl⟩
      exact Or.inl ⟨hunwritable, rfl⟩
  | _ => exact iff_of_false nofun (by rintro ⟨⟨_, _, ⟨⟩, _⟩, _⟩)

theorem isWritable_of_arity (h : ¬(e.arity ≠ 1 ∧ e.arity ≠ 2)) : Numeral.isWritable e.arity := by
  have harity : e.arity = 1 ∨ e.arity = 2 := by omega
  rcases harity with harity | harity
  · rw [harity]
    decide +kernel
  · rw [harity]
    decide +kernel

/-- The only values in the messages about a catalog are its arities. -/
theorem exists_text_eq_error_iff :
    (∃ problem ∈ c.inconsistencies, problem.text = .error fault) ↔
      ¬ c.IsWritable ∧ fault = .tooManyDigits := by
  constructor
  · rintro ⟨problem, hmem, htext⟩
    obtain ⟨⟨kind, arity, rfl, hunwritable⟩, rfl⟩ := text_eq_error_iff.mp htext
    obtain ⟨e, he, hmem⟩ := List.mem_flatMap.mp hmem
    obtain ⟨_, _, rfl⟩ := arity_mem_checkEntry_iff.mp hmem
    refine ⟨fun hall => ?_, rfl⟩
    cases (hall e he).symm.trans hunwritable
  · rintro ⟨hunwritable, rfl⟩
    obtain ⟨e, he⟩ := not_forall.mp hunwritable
    obtain ⟨he, harity⟩ := Classical.not_imp.mp he
    have hrange : e.arity ≠ 1 ∧ e.arity ≠ 2 := by
      by_contra h
      exact harity (isWritable_of_arity h)
    have hproblem : .arityOutOfRange e.kind e.arity ∈ c.checkEntry e :=
      arity_mem_checkEntry_iff.mpr ⟨hrange, rfl, rfl⟩
    have htext : (Inconsistency.arityOutOfRange e.kind e.arity).text = .error .tooManyDigits :=
      text_eq_error_iff.mpr ⟨⟨_, _, rfl, Bool.eq_false_iff.mpr harity⟩, rfl⟩
    exact ⟨_, List.mem_flatMap.mpr ⟨e, he, hproblem⟩, htext⟩

theorem extended_eq_fault_iff [Host] : c.extended extra = .error (.fault fault) ↔
    ¬ IsWritable ⟨replaceKnown c.entries extra⟩ ∧ fault = .tooManyDigits := by
  have htexts : ∀ problem ∈ inconsistencies ⟨replaceKnown c.entries extra⟩, ∀ failure,
      (liftM problem.text : Except Failure String) = .error failure →
        failure = .fault .tooManyDigits := by
    intro problem _ failure h
    obtain ⟨other, hother, rfl⟩ := mapError_eq_error_iff.mp h
    rw [(text_eq_error_iff.mp hother).2]
  rw [← exists_text_eq_error_iff]
  unfold extended
  dsimp only
  split
  · rename_i hnone
    rw [hnone]
    exact iff_of_false nofun nofun
  · -- the cause shows nothing but texts that have been written
    rw [bind_eq_error_iff, or_iff_left (by rintro ⟨_, _, ⟨⟩⟩)]
    simp only [mapM_eq_error_iff_of_forall htexts, liftM_fault_eq_fault_iff]

end StructureDerive.Catalog
