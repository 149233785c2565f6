import StructureDerive.Host.Terminal
import StructureDerive.Proofs.Ascii
import StructureDerive.Proofs.GenerationRun
import StructureDerive.Proofs.StageSuccess
import StructureDerive.Proofs.TestRendering

/-! # Implementations do not depend on tests

The stages that make the implementations read the target, its trait entries and the catalog. Tests
come after them and can only make a target fail, so a run without tests keeps all implementations.
-/
namespace StructureDerive
open Outcome
variable {c : Catalog} {d d' : Declaration} {options : Options}
variable {withTests : Bool} {result : Derivation} {failure : Failure}

/-- What a derivation implements. -/
def Derivation.impls (d : Derivation) : List Request × List Obligation × List Stub :=
  (d.requests, d.obligations, d.stubs)

namespace Batch
variable {batch single rest : Batch}

/-- A batch without tests that keeps all implementations of another one, in order. It may hold more
of them only where a target of the other one has failed. -/
structure IsBareOf (bare batch : Batch) : Prop where
  tests : ∀ result ∈ bare.results, result.tests = []
  impls : (batch.results.map (·.impls)).Sublist (bare.results.map (·.impls))
  complete : batch.diagnostics = [] →
    bare.diagnostics = [] ∧ bare.results.map (·.impls) = batch.results.map (·.impls)

theorem IsBareOf.concat {single' rest' : Batch} (hs : single'.IsBareOf single)
    (hr : rest'.IsBareOf rest) : (concat [single', rest']).IsBareOf (concat [single, rest]) := by
  constructor
  · intro result hresult
    rw [results_concat_pair, List.mem_append] at hresult
    rcases hresult with hresult | hresult
    · exact hs.tests result hresult
    · exact hr.tests result hresult
  · simp only [results_concat_pair, List.map_append]
    exact hs.impls.append hr.impls
  · intro hdiagnostics
    rw [diagnostics_concat_pair, List.append_eq_nil_iff] at hdiagnostics
    obtain ⟨hsingle, himpls⟩ := hs.complete hdiagnostics.1
    obtain ⟨hrest, himpls'⟩ := hr.complete hdiagnostics.2
    constructor
    · rw [diagnostics_concat_pair, hsingle, hrest, List.append_nil]
    · simp only [results_concat_pair, List.map_append, himpls, himpls']

end Batch

section
variable [Host]

namespace Declaration

theorem implStages_congr (htarget : d'.target = d.target) (hentries : d'.entries = d.entries) :
    d'.implStages c = d.implStages c := by
  rw [implStages, implStages, htarget, hentries]

theorem implStages_of_derive (h : d.derive c options withTests = .ok result) :
    d.implStages c = .ok result.impls := by
  obtain ⟨hread, hexpand, hstubs, _⟩ := derive_eq_ok_iff.mp h
  exact implStages_eq_ok_iff.mpr ⟨hread, hexpand, hstubs⟩

theorem implStages_of_derive_alike (htarget : d'.target = d.target)
    (hentries : d'.entries = d.entries) (h : d.derive c options withTests = .ok result) :
    d'.implStages c = .ok result.impls :=
  (implStages_congr htarget hentries).trans (implStages_of_derive h)

/-- A target that cannot be implemented fails with tests as it does without them. -/
theorem derive_of_implStages_error (h : d.implStages c = .error failure) (options : Options)
    (withTests : Bool) : d.derive c options withTests = .error failure := by
  rw [derive_eq_bind, h]
  rfl

theorem derive_without_tests {impls : List Request × List Obligation × List Stub}
    (h : d.implStages c = .ok impls) (options : Options) :
    ∃ bare, d.derive c options false = .ok bare ∧ bare.impls = impls ∧ bare.tests = [] := by
  rw [derive_eq_bind, h]
  exact ⟨_, rfl, rfl, rfl⟩

end Declaration

namespace Batch
variable {ds : List Declaration} {batch single rest : Batch}

theorem exists_bare_singleton (h : derive [d] c options withTests = .ok single)
    (options' : Options) :
    ∃ bare, derive [d] c options' false = .ok bare ∧ bare.IsBareOf single := by
  cases hstages : d.implStages c with
  | ok impls =>
    obtain ⟨result', hresult', himpls, htests⟩ := Declaration.derive_without_tests hstages options'
    refine ⟨_, derive_singleton_eq_ok_iff.mpr (Or.inl ⟨result', hresult', rfl⟩), ?_⟩
    rcases derive_singleton_eq_ok_iff.mp h with ⟨result, hresult, rfl⟩ | ⟨cause, _, rfl⟩
    · cases (Declaration.implStages_of_derive hresult).symm.trans hstages
      exact ⟨by simpa using htests, by simp [himpls], by simp [himpls]⟩
    · -- only the tests have failed, and without them there is a result
      exact ⟨by simpa using htests, List.nil_sublist _, nofun⟩
  | error failure =>
    rcases derive_singleton_eq_ok_iff.mp h with ⟨result, hresult, rfl⟩ | ⟨cause, hcause, rfl⟩
    · cases (Declaration.implStages_of_derive hresult).symm.trans hstages
    · cases hcause.symm.trans (Declaration.derive_of_implStages_error hstages options withTests)
      have hbare := Declaration.derive_of_implStages_error hstages options' false
      exact ⟨_, derive_singleton_eq_ok_iff.mpr (Or.inr ⟨cause, hbare, rfl⟩),
        List.forall_mem_nil _, List.Sublist.refl _, fun hnone => ⟨hnone, rfl⟩⟩

theorem exists_bare (h : derive ds c options withTests = .ok batch) (options' : Options) :
    ∃ bare, derive ds c options' false = .ok bare ∧ bare.IsBareOf batch := by
  induction ds generalizing batch with
  | nil =>
    cases h
    exact ⟨{}, rfl, ⟨List.forall_mem_nil _, List.Sublist.refl _, fun _ => ⟨rfl, rfl⟩⟩⟩
  | cons d ds ih =>
    obtain ⟨single, rest, hsingle, hrest, rfl⟩ := derive_cons_eq_ok_iff.mp h
    obtain ⟨single', hsingle', hs⟩ := exists_bare_singleton hsingle options'
    obtain ⟨rest', hrest', hr⟩ := ih hrest
    exact ⟨_, derive_cons_eq_ok_iff.mpr ⟨single', rest', hsingle', hrest', rfl⟩, hs.concat hr⟩

end Batch

/-- A plan with tests has a plan without them beside it. -/
theorem Plan.exists_bare {tree : FileTree} {source : Path} {inPlace : Option Path} {plan : Plan}
    (h : compute tree source options withTests inPlace = .ok plan) :
    ∃ bare, compute tree source options false inPlace = .ok bare ∧
      bare.batch.IsBareOf plan.batch := by
  obtain ⟨catalog, hcatalog, declarations, hload, batch, hbatch, generated, _, hplace⟩ :=
    compute_eq_ok_iff.mp h
  obtain ⟨bare, hbare, hkeeps⟩ := Batch.exists_bare hbatch options
  -- what has no tests has a text, whatever becomes of the tests of the other plan
  have hrenderable : ∀ result ∈ bare.results, result.IsRenderable := by
    intro result hresult
    rw [Derivation.IsRenderable, hkeeps.tests result hresult]
    exact List.forall_mem_nil _
  obtain ⟨text, htext⟩ := bare.render_failsUnless.succeeds hrenderable
  obtain ⟨plan', hplan'⟩ := place_isOk hplace bare text
  refine ⟨plan', compute_eq_ok_iff.mpr
    ⟨catalog, hcatalog, declarations, hload, bare, hbare, text, htext, hplan'⟩, ?_⟩
  rw [batch_of_place hplace, batch_of_place hplan']
  exact hkeeps

namespace Command.ExpandRequest
variable {r : ExpandRequest} {verbose : Bool} {s : Session}

theorem runFrom_of_derive (hcatalog : options.catalog s.tree = .ok c)
    (hdeclaration : r.declaration = .ok d) (hresult : d.derive c options false = .ok result) :
    ∃ text, runFrom (r.run options verbose) s = runFrom (do
      if r.json then write .results (result.obligationsJson.render ++ "\n")
      else printTable (table r.target result.obligations)
      return 0) (s.addMessages text) := by
  obtain ⟨text, hreport⟩ := runFrom_report verbose (d.reports c options false) s
  have hread : runFrom (orElse (.ok c) failWith) s = (.ok c, s) := rfl
  have hdeclared : runFrom (orElse (.ok d) failWith) s = (.ok d, s) := rfl
  refine ⟨text, ?_⟩
  unfold run
  rw [runFrom_bind_of_ok (runFrom_get s), hcatalog, runFrom_bind_of_ok hread, hdeclaration,
    runFrom_bind_of_ok hdeclared, runFrom_bind_of_ok hreport, hresult]
  rfl

theorem run_json {tree : FileTree} (hjson : r.json = true)
    (hcatalog : options.catalog tree = .ok c) (hdeclaration : r.declaration = .ok d)
    (hresult : d.derive c options false = .ok result) :
    ∃ messages, Command.run (r.run options verbose) tree =
      ⟨.exit 0, { tree, results := result.obligationsJson.render ++ "\n", messages }⟩ := by
  obtain ⟨text, hrun⟩ : ∃ text, runFrom (r.run options verbose) { tree } = _ :=
    runFrom_of_derive hcatalog hdeclaration hresult
  have hwrite := runFrom_write_results (Json.isPrinted_render result.obligationsJson)
    (Session.addMessages { tree } text)
  rw [Session.results_addMessages, String.empty_append] at hwrite
  rw [hjson, if_pos rfl] at hrun
  exact ⟨_, run_of_ok (hrun.trans (runFrom_bind_of_ok hwrite))⟩

end Command.ExpandRequest

namespace Declaration

/-- Settings for tests leave the implementations of a target as they are. Whatever it implements it
implements without tests as well, and that is what an expansion of its trait entries shows. A plan
without tests keeps the implementations of all targets. -/
theorem tests_leave_impls (htarget : d'.target = d.target) (hentries : d'.entries = d.entries) :
    (∀ options options' withTests withTests' result result',
      d.derive c options withTests = .ok result → d'.derive c options' withTests' = .ok result' →
        result'.impls = result.impls) ∧
    (∀ options options' withTests result, d.derive c options withTests = .ok result →
      ∃ bare, d'.derive c options' false = .ok bare ∧ bare.impls = result.impls ∧
        bare.tests = []) ∧
    (∀ options withTests result, d.derive c options withTests = .ok result →
      ∀ (r : Command.ExpandRequest) options' verbose tree, r.declaration = .ok d' →
        options'.catalog tree = .ok c →
        (r.json = true → ∃ messages, Command.run (r.run options' verbose) tree =
          ⟨.exit 0, { tree, results := result.obligationsJson.render ++ "\n", messages }⟩) ∧
        (r.json = false → ∃ text, Command.runFrom (r.run options' verbose) { tree } =
          Command.runFrom (do
            Command.printTable (Command.ExpandRequest.table r.target result.obligations)
            return 0) (Session.addMessages { tree } text))) ∧
    (∀ tree source options inPlace plan,
      Plan.compute tree source options true inPlace = .ok plan →
        ∃ bare, Plan.compute tree source options false inPlace = .ok bare ∧
          bare.batch.IsBareOf plan.batch) := by
  have hbare : ∀ options options' withTests result, d.derive c options withTests = .ok result →
      ∃ bare, d'.derive c options' false = .ok bare ∧ bare.impls = result.impls ∧
        bare.tests = [] := by
    intro options options' withTests result hresult
    exact derive_without_tests (implStages_of_derive_alike htarget hentries hresult) options'
  refine ⟨?_, hbare, ?_, fun _ _ _ _ _ => Plan.exists_bare⟩
  · intro options options' withTests withTests' result result' hresult hresult'
    have hsame := implStages_of_derive_alike htarget hentries hresult
    exact Except.ok.inj ((implStages_of_derive hresult').symm.trans hsame)
  · intro options withTests result hresult r options' verbose tree hdeclaration hcatalog
    obtain ⟨bare, hderive, himpls, _⟩ := hbare options options' withTests result hresult
    have hobligations : bare.obligations = result.obligations :=
      congrArg (fun impls => impls.2.1) himpls
    constructor
    · intro hjson
      have hrun : ∃ messages, Command.run (r.run options' verbose) tree = _ :=
        Command.ExpandRequest.run_json hjson hcatalog hdeclaration hderive
      rwa [Derivation.obligationsJson, hobligations] at hrun
    · intro htable
      obtain ⟨text, hrun⟩ : ∃ text, Command.runFrom (r.run options' verbose) { tree } = _ :=
        Command.ExpandRequest.runFrom_of_derive hcatalog hdeclaration hderive
      rw [htable, hobligations] at hrun
      exact ⟨text, hrun⟩

end Declaration
end

attribute [local instance] Host.terminal

namespace Declaration

/-- A monoid with tests, and without any settings for them. -/
theorem tests_leave_impls_of_monoid :
    let d : Declaration := { target := { name := "T" },
                             entries := [⟨"Monoid", .list [.text "Additive"]⟩],
                             tested := true, approx := some true, guard := .bool false }
    let d' : Declaration := { target := d.target, entries := d.entries }
    let r : Command.ExpandRequest := { attributes := ["Monoid(Additive)"], json := true }
    d'.target = d.target ∧ d'.entries = d.entries ∧ r.declaration = .ok d' ∧
      ∃ result bare, d.derive .standard {} true = .ok result ∧ result.tests.length = 2 ∧
        d'.derive .standard { approx := true } false = .ok bare ∧ bare.impls = result.impls ∧
        ∃ messages, Command.run (r.run {} false) {} = ⟨.exit 0,
          { tree := {}, results := result.obligationsJson.render ++ "\n", messages }⟩ := by
  intro d d' r
  have hdeclaration : r.declaration = .ok d' := by rfl
  obtain ⟨result, hresult, hlength⟩ :
      ∃ result, d.derive .standard {} true = .ok result ∧ (result.tests.length == 2) = true :=
    exists_ok_of_any (by decide +kernel)
  have htarget : d'.target = d.target := rfl
  have hentries : d'.entries = d.entries := rfl
  obtain ⟨_, hbare, hexpand, _⟩ := tests_leave_impls (c := .standard) htarget hentries
  obtain ⟨bare, hderive, himpls, _⟩ := hbare {} { approx := true } true result hresult
  obtain ⟨hjson, _⟩ := hexpand {} true result hresult r {} false {} hdeclaration rfl
  exact ⟨htarget, hentries, hdeclaration, result, bare, hresult, by simpa using hlength, hderive,
    himpls, hjson rfl⟩

end Declaration
end StructureDerive
