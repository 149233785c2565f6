import Mathlib.Data.List.Basic
import StructureDerive.Declaration.Instantiation
import StructureDerive.Declaration.Target
import StructureDerive.Proofs.Fault

/-! # Instantiations fill their parameters

Lifetimes take no argument, and every other parameter takes one. An instantiation that is accepted
has exactly that many types, so that no parameter is left without one.
-/
namespace StructureDerive
open Outcome
variable {cause : Cause}

namespace Generics

/-- Parameters can be filled exactly when there are arguments enough for all but the lifetimes. -/
theorem fill_isOk_iff {parameters : List Parameter} {arguments : List String} :
    (∃ filled, fill parameters arguments = .ok filled) ↔
      (parameters.filter (·.isInstantiable)).length ≤ arguments.length := by
  fun_induction fill parameters arguments with
  | case1 arguments => simp
  | case2 p rest arguments hp ih =>
    have hp : p.isInstantiable = false := by simp [Parameter.isInstantiable, hp]
    simp [← ih, hp, bind_eq_ok_iff, pure, Except.pure]
  | case3 p rest hp =>
    have hp : p.isInstantiable := by simp [Parameter.isInstantiable, hp]
    simp [hp]
  | case4 p rest hp argument more ih =>
    have hp : p.isInstantiable := by simp [Parameter.isInstantiable, hp]
    simp [← ih, hp, bind_eq_ok_iff, pure, Except.pure]

end Generics

theorem Target.typeWith_isOk_iff {t : Target} {arguments : List String} :
    (∃ type, t.typeWith (some arguments) = .ok type) ↔
      t.generics.instantiable.length ≤ arguments.length := by
  simp [Target.typeWith, Generics.instantiate, bind_eq_ok_iff, pure, Except.pure,
    Generics.instantiable, ← Generics.fill_isOk_iff]

namespace Instantiation
variable {expected : Nat} {given : Value}

theorem length_of_ofValue {types : List String} (h : ofValue expected given = .ok types) :
    types.length = expected := by
  unfold ofValue at h
  simp only [bind_eq_ok_iff] at h
  obtain ⟨_, _, read, _, h⟩ := h
  split at h
  · cases h
  split at h
  · cases h
  · rename_i hlength
    cases h
    exact Decidable.not_not.mp hlength

theorem ne_zero_of_ofValue {types : List String} (h : ofValue expected given = .ok types) :
    expected ≠ 0 := by
  rintro rfl
  unfold ofValue at h
  simp only [bind_eq_ok_iff] at h
  obtain ⟨_, _, _, _, h⟩ := h
  cases h

theorem exists_ofValue_of_parse {g : Generics} {raw : Value} {rows : List (List String)}
    {types : List String} (h : parse raw g = .ok rows) (htypes : types ∈ rows) :
    ∃ given, ofValue g.instantiable.length given = .ok types := by
  unfold parse at h
  split at h
  · cases h
    cases htypes
  · obtain ⟨given, _, hgiven⟩ := exists_of_mem_mapM h htypes
    exact ⟨given, hgiven⟩
  · obtain ⟨given, _, hgiven⟩ := exists_of_mem_mapM h htypes
    exact ⟨given, hgiven⟩
  · cases h

/-- The pieces of a text are texts, and the items of a sequence are its own. -/
theorem typeValues_eq_ok {values : List Value} (h : typeValues given = .ok values) :
    given.sequence? = some values ∨ ∃ texts : List String, values = texts.map .text := by
  unfold typeValues at h
  dsimp only at h
  split at h <;> cases h
  rename_i item rest hitems
  split at hitems
  · exact Or.inr ⟨_, (Option.some.inj hitems).symm⟩
  · exact Or.inl hitems

variable [Host]

theorem isWritable_of_ofTypeValue (h : ofTypeValue given = .error cause)
    (hgiven : given.isWritable) : cause.isWritable := by
  unfold ofTypeValue at h
  split at h
  · dsimp only at h
    split at h <;> cases h
    rfl
  · cases h
    exact hgiven

/-- A text that is turned down here has no pieces. -/
theorem isWritable_of_typeValues (h : typeValues given = .error cause) (hgiven : given.isWritable) :
    cause.isWritable := by
  unfold typeValues at h
  dsimp only at h
  split at h
  · cases h
  · rename_i hread
    cases h
    split at hread
    · rename_i s
      cases hpieces : Text.splitTopLevel s with
      | nil => rfl
      | cons piece pieces =>
        rw [hpieces] at hread
        exact absurd rfl (hread _ _)
    · exact hgiven

theorem typeValues_isWritable {values : List Value} (h : typeValues given = .ok values)
    (hgiven : given.isWritable) : ∀ v ∈ values, v.isWritable := by
  intro v hv
  rcases typeValues_eq_ok h with hitems | ⟨texts, rfl⟩
  · exact Value.isWritable_of_mem_sequence? hgiven hitems hv
  · obtain ⟨_, _, rfl⟩ := List.mem_map.mp hv
    rfl

theorem isWritable_of_ofValue (h : ofValue expected given = .error cause)
    (hgiven : given.isWritable) : cause.isWritable := by
  unfold ofValue at h
  simp only [bind_eq_error_iff] at h
  rcases h with h | ⟨values, hvalues, h | ⟨types, _, h⟩⟩
  · exact isWritable_of_typeValues h hgiven
  · obtain ⟨before, v, after, rfl, _, h⟩ := mapM_eq_error_iff.mp h
    exact isWritable_of_ofTypeValue h (typeValues_isWritable hvalues hgiven v (by simp))
  · split at h
    · cases h
      rfl
    split at h <;> cases h
    rfl

end Instantiation
end StructureDerive
