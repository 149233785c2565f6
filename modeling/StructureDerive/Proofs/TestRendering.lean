import StructureDerive.Proofs.TestMatrix

/-! # Tests that can be rendered

A guard compares the arguments of its test with an identity of their type, and takes that type from
the first of them. So a test without arguments has a text only if it has no guard, and the text of
a whole batch is missing as soon as one of its tests has none.
-/
namespace StructureDerive
open Outcome

namespace Outcome
variable {ε α β : Type} {condition : Prop} {failure : ε} {x : Except ε α}

/-- A step that succeeds under a condition and fails in one way without it. -/
structure FailsUnless (condition : Prop) (failure : ε) (x : Except ε α) : Prop where
  succeeds : condition → ∃ a, x = .ok a
  fails : ¬ condition → x = .error failure

theorem failsUnless_pure (h : condition) (a : α) :
    FailsUnless condition failure (pure a : Except ε α) :=
  ⟨fun _ => ⟨a, rfl⟩, fun hnot => absurd h hnot⟩

theorem FailsUnless.map (hx : FailsUnless condition failure x) (f : α → β) :
    FailsUnless condition failure (x >>= fun a => pure (f a)) := by
  constructor
  · intro h
    obtain ⟨a, rfl⟩ := hx.succeeds h
    exact ⟨f a, rfl⟩
  · intro h
    rw [hx.fails h]
    rfl

theorem FailsUnless.mapM {p : β → Prop} {f : β → Except ε α} {bs : List β}
    (hf : ∀ b ∈ bs, FailsUnless (p b) failure (f b)) :
    FailsUnless (∀ b ∈ bs, p b) failure (bs.mapM f) := by
  induction bs with
  | nil => exact failsUnless_pure (List.forall_mem_nil p) []
  | cons b bs ih =>
    obtain ⟨hb, hbs⟩ := List.forall_mem_cons.mp hf
    rw [List.forall_mem_cons, List.mapM_cons]
    by_cases h : p b
    · obtain ⟨a, ha⟩ := hb.succeeds h
      rw [ha, and_iff_right h]
      exact (ih hbs).map (a :: ·)
    · rw [hb.fails h]
      exact ⟨fun hall => absurd hall.1 h, fun _ => rfl⟩

end Outcome

/-- A guard needs an argument to look at. -/
def LawTest.IsRenderable (t : LawTest) : Prop := t.guard ≠ none → t.parameters ≠ []

theorem LawTest.lines_failsUnless (t : LawTest) :
    FailsUnless t.IsRenderable .missingItem t.lines := by
  unfold LawTest.lines LawTest.IsRenderable
  dsimp only
  cases t.guard with
  | none => exact failsUnless_pure (fun h => absurd rfl h) _
  | some guard =>
    cases t.parameters with
    | nil => exact ⟨fun h => absurd rfl (h nofun), fun _ => rfl⟩
    | cons type types => exact failsUnless_pure (fun _ => nofun) _

theorem Target.renderTests_failsUnless (target : Target) (tests : List LawTest) (crate : String) :
    FailsUnless (∀ t ∈ tests, t.IsRenderable) .missingItem (target.renderTests tests crate) := by
  unfold Target.renderTests
  split
  · rename_i hempty
    have hnil : tests = [] := List.isEmpty_iff.mp hempty
    exact failsUnless_pure (hnil ▸ List.forall_mem_nil _) _
  · exact (FailsUnless.mapM fun t _ => t.lines_failsUnless.map _).map _

def Derivation.IsRenderable (d : Derivation) : Prop := ∀ t ∈ d.tests, t.IsRenderable

theorem Derivation.render_failsUnless (d : Derivation) :
    FailsUnless d.IsRenderable .missingItem d.render := by
  unfold Derivation.render Derivation.IsRenderable
  dsimp only
  split
  · rename_i hempty
    have hnil : d.tests = [] := List.isEmpty_iff.mp hempty
    exact failsUnless_pure (hnil ▸ List.forall_mem_nil _) _
  · exact (d.target.renderTests_failsUnless d.tests d.crate).map _

theorem Batch.render_failsUnless (b : Batch) :
    FailsUnless (∀ d ∈ b.results, d.IsRenderable) .missingItem b.render :=
  (FailsUnless.mapM fun d _ => d.render_failsUnless).map _

end StructureDerive
