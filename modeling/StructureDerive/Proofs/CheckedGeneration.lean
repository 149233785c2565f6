import StructureDerive.Host.Terminal
import StructureDerive.Proofs.GenerationRun
import StructureDerive.Proofs.TestRendering

/-! # Generating what was checked

A check derives all targets, with their tests, and neither renders nor prints them. So a generation
after it can only fail in the rendering, and there only for a test that has a guard and no argument:
its law takes none, which no catalog forbids. And the text may hold what cannot be printed.
-/
namespace StructureDerive
open Outcome
variable {c : Catalog} {d : Declaration} {options : Options} {result : Derivation}

theorem TestPlan.IsTestAt.isRenderable_iff {p : TestPlan} {x : Cell} {t : LawTest}
    (h : p.IsTestAt x t) : t.IsRenderable ↔
      (p.policy.guardFor x.obligation x.entry ≠ none → 0 < x.law.arity) := by
  obtain ⟨type, _, hparameters, _⟩ := h.calls
  rw [LawTest.IsRenderable, h.guard, hparameters, ne_eq (List.replicate _ _),
    List.replicate_eq_nil_iff]
  refine imp_congr_right fun _ => ?_
  omega

theorem TestPlan.exists_mem_rows (instantiations : List (List String)) :
    ∃ row, row ∈ rows instantiations := by
  cases instantiations with
  | nil => exact ⟨none, List.mem_cons_self⟩
  | cons types instantiations => exact ⟨some types, List.mem_cons_self⟩

section
variable [Host]

/-- Laws that are tested under a guard take arguments. -/
def Declaration.GuardsArguments (d : Declaration) (c : Catalog) (options : Options) : Prop :=
  ∀ result plan, d.derive c options true = .ok result → d.tested → d.testPlan options = .ok plan →
    ∀ o ∈ result.obligations, ∀ e, c.find? o.kind = some e → plan.policy.guardFor o e ≠ none →
      ∀ law ∈ e.laws, 0 < law.arity

/-- A derivation can be rendered exactly when its guards have arguments to look at. -/
theorem Declaration.isRenderable_iff_guardsArguments (h : d.derive c options true = .ok result) :
    result.IsRenderable ↔ d.GuardsArguments c options := by
  cases htested : d.tested with
  | false =>
    have hnone : result.tests = [] := tests_of_derive_untested h (by rw [htested]; rfl)
    refine iff_of_true ?_ ?_
    · rw [Derivation.IsRenderable, hnone]
      exact List.forall_mem_nil _
    · intro _ _ _ hyes
      rw [htested] at hyes
      cases hyes
  | true =>
    obtain ⟨plan, rows, hplan, _, hall⟩ := areTestsAt_of_derive h (by rw [htested]; rfl)
    constructor
    · intro hrender result' plan' h' _ hplan' o ho e he hguard law hlaw
      cases h.symm.trans h'
      cases hplan.symm.trans hplan'
      -- a law of an entry is tested in some row, so that a guard without arguments shows up
      obtain ⟨row, hrow⟩ := TestPlan.exists_mem_rows rows
      have hcell : (⟨o, e, law, row⟩ : Cell) ∈ Cell.all c result.obligations rows :=
        Cell.mem_all_iff.mpr ⟨ho, he, hlaw, hrow⟩
      obtain ⟨t, ht, htest⟩ := exists_of_mem_forall₂ hall.flip hcell
      exact htest.isRenderable_iff.mp (hrender t ht) hguard
    · intro hguards t ht
      obtain ⟨x, hx, htest⟩ := exists_of_mem_forall₂ hall ht
      obtain ⟨ho, he, hlaw, _⟩ := Cell.mem_all_iff.mp hx
      exact htest.isRenderable_iff.mpr fun hguard =>
        hguards result plan h htested hplan _ ho _ he hguard _ hlaw

theorem Declaration.guardsArguments_of_arities
    (h : ∀ e ∈ c.entries, ∀ law ∈ e.laws, 0 < law.arity) : d.GuardsArguments c options := by
  intro result plan _ _ _ o _ e he _ law hlaw
  exact h e (Catalog.mem_of_find? he).1 law hlaw

end

namespace Command
variable {tree : FileTree} {source : Path} {verbose : Bool} {catalog : Catalog}
variable {declarations : List Declaration} {batch : Batch}

section
variable [Host]

/-- A check that ends well has read the catalog and the declarations, and has a result for each. -/
theorem exists_batch_of_check
    (h : (Command.run (check source options verbose) tree).ending = .exit 0) :
    ∃ catalog declarations batch, options.catalog tree = .ok catalog ∧
      Declaration.load tree source = .ok declarations ∧
      Batch.derive declarations catalog options true = .ok batch ∧ batch.diagnostics = [] := by
  -- a step that stops ends the command badly, so each of them has gone on
  rw [ending_run, check, endFrom_bind_of_ok (runFrom_get _)] at h
  obtain ⟨catalog, hcatalog, h⟩ := orElse_of_exit_zero h
  obtain ⟨declarations, hload, h⟩ := orElse_of_exit_zero h
  obtain ⟨text, hreport⟩ := runFrom_report verbose (Batch.reports declarations catalog options true)
    { tree }
  rw [endFrom_bind_of_ok hreport] at h
  obtain ⟨batch, hbatch, h⟩ := orFault_of_exit h
  refine ⟨catalog, declarations, batch, hcatalog, hload, hbatch, ?_⟩
  obtain ⟨_, h⟩ := (Informs.forM (fun _ => informs_printStyled _) batch.results).of_exit h
  obtain ⟨_, h⟩ := (Informs.forM (fun _ => informs_print _) batch.diagnostics).of_exit h
  by_contra hfailed
  have hsucceeded : batch.succeeded = false := by
    rw [Batch.succeeded, List.isEmpty_eq_false_iff]
    exact hfailed
  rw [hsucceeded] at h
  obtain ⟨_, h⟩ := (informs_print _).of_exit h
  cases h

theorem forall_isRenderable_iff (h : Batch.derive declarations catalog options true = .ok batch) :
    (∀ result ∈ batch.results, result.IsRenderable) ↔
      ∀ d ∈ declarations, d.GuardsArguments catalog options := by
  constructor
  · intro hrender d hd result plan hresult
    have hmem : result ∈ batch.results := (Batch.mem_results_iff h).mpr ⟨d, hd, hresult⟩
    have hguards := (Declaration.isRenderable_iff_guardsArguments hresult).mp (hrender result hmem)
    exact hguards result plan hresult
  · intro hguards result hmem
    obtain ⟨d, hd, hresult⟩ := (Batch.mem_results_iff h).mp hmem
    exact (Declaration.isRenderable_iff_guardsArguments hresult).mpr (hguards d hd)

/-- After a check that ends well a generation has a text if every law that is tested under a guard
takes arguments, and ends well if the text can be printed; otherwise it ends with a fault and prints
nothing. There is a text whenever all laws of the catalog take arguments. -/
theorem generate_after_check
    (h : (Command.run (check source options verbose) tree).ending = .exit 0) (verbose' : Bool) :
    ∃ catalog declarations batch, options.catalog tree = .ok catalog ∧
      Declaration.load tree source = .ok declarations ∧
      Batch.derive declarations catalog options true = .ok batch ∧ batch.diagnostics = [] ∧
      ((∀ d ∈ declarations, d.GuardsArguments catalog options) → ∃ generated messages,
        batch.render = .ok generated ∧
        Command.run (GenerateRequest.run { source } options verbose') tree =
          if Text.isPrinted generated then
            ⟨.exit 0, { tree, results := Plan.header ++ "\n" ++ generated, messages }⟩
          else ⟨.fault .unencodable, { tree, messages }⟩) ∧
      ((¬ ∀ d ∈ declarations, d.GuardsArguments catalog options) → ∃ messages,
        Command.run (GenerateRequest.run { source } options verbose') tree =
          ⟨.fault .missingItem, { tree, messages }⟩) ∧
      ((∀ e ∈ catalog.entries, ∀ law ∈ e.laws, 0 < law.arity) →
        ∀ d ∈ declarations, d.GuardsArguments catalog options) := by
  obtain ⟨catalog, declarations, batch, hcatalog, hload, hbatch, hdiagnostics⟩ :=
    exists_batch_of_check h
  have hrender := batch.render_failsUnless
  rw [forall_isRenderable_iff hbatch] at hrender
  refine ⟨catalog, declarations, batch, hcatalog, hload, hbatch, hdiagnostics, ?_, ?_, ?_⟩
  · intro hguards
    obtain ⟨generated, hgenerated⟩ := hrender.succeeds hguards
    have hplan : Plan.compute tree source options true none = .ok { source, batch, generated } :=
      Plan.compute_eq_ok_iff.mpr
        ⟨catalog, hcatalog, declarations, hload, batch, hbatch, generated, hgenerated, rfl⟩
    obtain ⟨messages, hrun⟩ := GenerateRequest.run_to_reader hplan hdiagnostics
    exact ⟨generated, messages, hgenerated, hrun⟩
  · intro hbare
    have hplan : Plan.compute tree source options true none = .error (.fault .missingItem) :=
      Plan.compute_eq_fault hcatalog hload hbatch (hrender.fails hbare)
    obtain ⟨text, hrun⟩ : ∃ text, runFrom (GenerateRequest.run { source } options verbose')
        { tree } = (.error (.fault .missingItem), Session.addMessages { tree } text) :=
      GenerateRequest.runFrom_of_fault hplan
    exact ⟨_, run_of_error hrun⟩
  · intro harities d _
    exact Declaration.guardsArguments_of_arities harities

end

/-- A file with one tested target, and a catalog file beside it. -/
def treeWith (traits kinds : String) : FileTree where
  nodes := [
    (["d.toml"], .file s!"targets = [\x7bname=\"W\",traits=[{traits}],quickcheck=true\x7d]".toUTF8),
    (["kinds.toml"], .file kinds.toUTF8)]

/-- A terminal that takes every character. -/
@[reducible] def lenientTerminal : Host :=
  { Host.terminal with prints := fun _ => true, prints_of_ascii := fun _ => rfl }

attribute [local instance] lenientTerminal in
theorem generate_after_check_monoid :
    let source : Path := ⟨"", ["d.toml"]⟩
    let tree := treeWith "\"Monoid(Additive)\"" ""
    (Command.run (check source {} false) tree).ending = .exit 0 ∧ ∃ text messages,
      Command.run (GenerateRequest.run { source } {} false) tree =
        ⟨.exit 0, { tree, results := Plan.header ++ "\n" ++ text, messages }⟩ := by
  intro source tree
  have h : (Command.run (check source {} false) tree).ending = .exit 0 := by decide +kernel
  obtain ⟨catalog, declarations, batch, hcatalog, _, _, _, hexits, _, harities⟩ :=
    generate_after_check h false
  have hstandard : catalog = Catalog.standard := (Except.ok.inj hcatalog).symm
  have hlaws : ∀ e ∈ catalog.entries, ∀ law ∈ e.laws, 0 < law.arity := by
    rw [hstandard]
    decide
  obtain ⟨text, messages, _, hrun⟩ := hexits (harities hlaws)
  have hprinted : Text.isPrinted text := List.all_eq_true.mpr fun _ _ => rfl
  rw [if_pos hprinted] at hrun
  exact ⟨h, text, messages, hrun⟩

attribute [local instance] Host.terminal

/-- A guarded kind whose law takes no arguments passes the check and ends the generation. -/
theorem generate_after_check_pointed :
    let source : Path := ⟨"", ["d.toml"]⟩
    let options : Options := { catalogPath := some ⟨"", ["kinds.toml"]⟩ }
    let tree := treeWith "\"Division(Additive, Multiplicative)\"" <|
      "kinds = [\x7bname=\"Pointed\",guarded=true," ++
        "properties=[\x7bname=\"prop_is_inhabited\",arity=0\x7d]\x7d," ++
        "\x7bname=\"Division\",arity=2,slot1=[\"Pointed\"]\x7d]"
    (Command.run (check source options false) tree).ending = .exit 0 ∧
      (Command.run (GenerateRequest.run { source } options false) tree).ending =
        .fault .missingItem := by
  decide +kernel

end Command
end StructureDerive
