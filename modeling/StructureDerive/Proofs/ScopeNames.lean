import StructureDerive.Catalog.Standard
import StructureDerive.Generation.Derivation
import StructureDerive.Host.Terminal
import StructureDerive.Proofs.NameSpelling
import StructureDerive.Proofs.Outcome

/-! # Which targets share a scope

A rendered batch has a constant for each derivation, and a module for each derivation with tests.
Their names are made of the names of the targets alone, so that two derivations clash exactly when
those are spelled alike.
-/
namespace StructureDerive
open Outcome

/-- Lines that stand together can be joined first. -/
theorem intercalate_joined {s : String} {lines : List String} (h : lines ≠ [])
    (before after : List String) : s.intercalate (before ++ lines ++ after) =
      s.intercalate (before ++ s.intercalate lines :: after) := by
  induction before with
  | nil =>
    cases after with
    | nil => rw [List.append_nil, List.nil_append, List.nil_append, String.intercalate_singleton]
    | cons line after =>
      rw [List.nil_append, List.nil_append, String.intercalate_cons_cons,
        String.intercalate_append_of_ne_nil h (List.cons_ne_nil _ _)]
  | cons line before ih =>
    rw [List.cons_append, List.cons_append, List.cons_append,
      String.intercalate_cons_of_ne_nil (by simp [h]),
      String.intercalate_cons_of_ne_nil (by simp), ih]

namespace Target
variable {t u : Target}

theorem scopeName_eq_iff :
    t.scopeName = u.scopeName ↔ Text.SameShape t.name.toList u.name.toList :=
  (String.append_right_inj "_ALGA_DERIVE_").trans
    (String.ofList_inj.trans Text.map_scopeChar_eq_iff)

theorem testModuleName_eq_iff :
    t.testModuleName = u.testModuleName ↔ Text.SameWords t.name.toList u.name.toList :=
  (String.append_right_inj "_alga_quickcheck_").trans Text.identifier_eq_iff

/-- A constant with the name of the target's scope. -/
def constant (t : Target) (body : String) : String :=
  "\n".intercalate ["#[allow(non_upper_case_globals, unused_attributes, unused_qualifications)]",
    s!"const {t.scopeName}: () = \x7b", body, "\x7d;"] ++ "\n"

def testModule (t : Target) (body : String) : String :=
  "\n".intercalate ["#[cfg(test)]", "#[allow(non_snake_case)]",
    s!"mod {t.testModuleName} \x7b", body, "\x7d"] ++ "\n"

theorem renderStubs_eq_constant (stubs : List Stub) (crate : String) :
    ∃ body, t.renderStubs stubs crate = t.constant body := by
  have hjoined := intercalate_joined (s := "\n") (List.cons_ne_nil (externLine crate)
    (stubs.flatMap fun s => ["    #[automatically_derived]", "    " ++ t.renderStub s]))
    ["#[allow(non_upper_case_globals, unused_attributes, unused_qualifications)]",
      s!"const {t.scopeName}: () = \x7b"] ["\x7d;"]
  exact ⟨_, congrArg (· ++ "\n") hjoined⟩

theorem renderTests_eq_testModule {tests : List LawTest} {crate text : String} (hne : tests ≠ [])
    (h : t.renderTests tests crate = .ok text) : ∃ body, text = t.testModule body := by
  rw [renderTests, if_neg (by simpa using hne), bind_eq_ok_iff] at h
  obtain ⟨bodies, -, h⟩ := h
  cases h
  have hjoined := intercalate_joined (s := "\n") (List.cons_ne_nil (externLine crate)
    ("    use super::*;" :: bodies.flatten))
    ["#[cfg(test)]", "#[allow(non_snake_case)]", s!"mod {t.testModuleName} \x7b"] ["\x7d"]
  exact ⟨_, congrArg (· ++ "\n") hjoined⟩

end Target

namespace Derivation

/-- A constant, followed by a module when there are tests. -/
inductive IsWrittenAs (r : Derivation) : String → Prop where
  | untested (body : String) : r.tests = [] → IsWrittenAs r (r.target.constant body)
  | tested (body tests : String) : r.tests ≠ [] →
      IsWrittenAs r (r.target.constant body ++ "\n" ++ r.target.testModule tests)

theorem isWrittenAs_of_render {r : Derivation} {text : String} (h : r.render = .ok text) :
    r.IsWrittenAs text := by
  obtain ⟨body, hbody⟩ := r.target.renderStubs_eq_constant r.stubs r.crate
  rw [render, hbody] at h
  cases htests : r.tests with
  | nil =>
    rw [if_pos (by simp [htests])] at h
    cases h
    exact .untested body htests
  | cons test tests =>
    have hne : r.tests ≠ [] := by simp [htests]
    rw [if_neg (by simp [htests])] at h
    obtain ⟨tail, htail, h⟩ := bind_eq_ok_iff.mp h
    obtain ⟨module, rfl⟩ := Target.renderTests_eq_testModule hne htail
    cases h
    exact .tested body module hne

end Derivation

namespace Batch

/-- The derivations that have a module. -/
def tested (b : Batch) : List Derivation := b.results.filter (!·.tests.isEmpty)

/-- Two constants of a batch share a name when the names of their targets differ in gaps alone, and
two modules when these have the same words. -/
theorem scopes_distinct_iff {b : Batch} {text : String} (h : b.render = .ok text) :
    (∃ parts, text = "\n".intercalate parts ∧
      List.Forall₂ Derivation.IsWrittenAs b.results parts) ∧
    ((b.results.map (·.target.scopeName)).Nodup ↔ b.results.Pairwise fun r s =>
      ¬ Text.SameShape r.target.name.toList s.target.name.toList) ∧
    ((b.tested.map (·.target.testModuleName)).Nodup ↔ b.tested.Pairwise fun r s =>
      ¬ Text.SameWords r.target.name.toList s.target.name.toList) ∧
    ∀ t u : Target,
      (t.scopeName = u.scopeName ↔ Text.SameShape t.name.toList u.name.toList) ∧
      (t.testModuleName = u.testModuleName ↔ Text.SameWords t.name.toList u.name.toList) := by
  obtain ⟨parts, hparts, htext⟩ := bind_eq_ok_iff.mp h
  cases htext
  refine ⟨⟨parts, rfl, ?_⟩, ?_, ?_, ?_⟩
  · exact (mapM_eq_ok_iff_forall₂.mp hparts).imp fun _ _ => Derivation.isWrittenAs_of_render
  · simp only [List.Nodup, List.pairwise_map, ne_eq, Target.scopeName_eq_iff]
  · simp only [List.Nodup, List.pairwise_map, ne_eq, Target.testModuleName_eq_iff]
  · exact fun t u => ⟨Target.scopeName_eq_iff, Target.testModuleName_eq_iff⟩

def testedSemigroup (name : String) : Declaration where
  target := { name }
  entries := [⟨"Semigroup", .text "Additive"⟩]
  tested := true

attribute [local instance] Host.terminal

theorem scopes_distinct_for_path :
    ∃ b text, derive (["ops::W", "ops_W"].map testedSemigroup) .standard {} true = .ok b ∧
      b.render = .ok text ∧ b.tested.map (·.target.name) = ["ops::W", "ops_W"] ∧
      (b.results.map (·.target.scopeName)).Nodup ∧
      (b.tested.map (·.target.testModuleName)).Nodup := by
  obtain ⟨b, hb, hbatch⟩ := exists_ok_of_any (x := derive (["ops::W", "ops_W"].map testedSemigroup)
    .standard {} true) (p := fun b => b.render.toOption.any (fun _ => true) ∧
      b.results.map (·.target.name) = ["ops::W", "ops_W"] ∧
      b.tested.map (·.target.name) = ["ops::W", "ops_W"]) (by decide +kernel)
  obtain ⟨htext, hnames, htested⟩ := of_decide_eq_true hbatch
  obtain ⟨text, htext, -⟩ := exists_ok_of_any htext
  obtain ⟨_, hscopes, hmodules, _⟩ := scopes_distinct_iff htext
  have hshapes : ["ops::W", "ops_W"].Pairwise fun s t => ¬ Text.SameShape s.toList t.toList := by
    decide +kernel
  have hwords : ["ops::W", "ops_W"].Pairwise fun s t => ¬ Text.SameWords s.toList t.toList := by
    decide +kernel
  rw [← hnames] at hshapes
  rw [← htested] at hwords
  exact ⟨b, text, hb, htext, htested, hscopes.mpr (List.pairwise_map.mp hshapes),
    hmodules.mpr (List.pairwise_map.mp hwords)⟩

/-- Outer underscores are dropped, and an underscore for a character is like one of the name. -/
theorem scopes_clash :
    ∃ b text, derive (["W", "_W", "ops::W", "ops__W"].map testedSemigroup) .standard {} true =
        .ok b ∧ b.render = .ok text ∧
      b.tested.map (·.target.name) = ["W", "_W", "ops::W", "ops__W"] ∧
      ¬ (b.results.map (·.target.scopeName)).Nodup ∧
      ¬ (b.tested.map (·.target.testModuleName)).Nodup := by
  obtain ⟨b, hb, hbatch⟩ := exists_ok_of_any
    (x := derive (["W", "_W", "ops::W", "ops__W"].map testedSemigroup) .standard {} true)
    (p := fun b => b.render.toOption.any (fun _ => true) ∧
      b.tested.map (·.target.name) = ["W", "_W", "ops::W", "ops__W"] ∧
      ¬ (b.results.map (·.target.scopeName)).Nodup ∧
      ¬ (b.tested.map (·.target.testModuleName)).Nodup) (by decide +kernel)
  obtain ⟨htext, hclash⟩ := of_decide_eq_true hbatch
  obtain ⟨text, htext, -⟩ := exists_ok_of_any htext
  exact ⟨b, text, hb, htext, hclash⟩

end Batch
end StructureDerive
