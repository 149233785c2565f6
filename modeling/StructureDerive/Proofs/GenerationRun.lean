import StructureDerive.Command.Generation
import StructureDerive.Proofs.Ascii
import StructureDerive.Proofs.BatchIsolation
import StructureDerive.Proofs.CommandSteps
import StructureDerive.Proofs.Region

/-! # Runs of a generation

A generation first computes its plan: from the catalog, the declarations and their batch to the text
that it would write. Then it shows what became of the targets and executes the plan.
-/
namespace StructureDerive
open Outcome

namespace Batch
variable {ds : List Declaration} {c : Catalog} {options : Options} {withTests : Bool}
variable {batch : Batch}

theorem mem_results_iff [Host] {result : Derivation}
    (h : derive ds c options withTests = .ok batch) :
    result ∈ batch.results ↔ ∃ d ∈ ds, d.derive c options withTests = .ok result := by
  induction ds generalizing batch with
  | nil =>
    cases h
    simp
  | cons d ds ih =>
    obtain ⟨single, rest, hsingle, hrest, rfl⟩ := derive_cons_eq_ok_iff.mp h
    simp only [results_concat_pair, List.mem_append, ih hrest, List.exists_mem_cons_iff]
    refine or_congr_left ?_
    rcases derive_singleton_eq_ok_iff.mp hsingle with ⟨own, hown, rfl⟩ | ⟨cause, hcause, rfl⟩
    · rw [hown, List.mem_singleton, Except.ok.injEq, eq_comm]
    · rw [hcause]
      refine iff_of_false List.not_mem_nil ?_
      rintro ⟨⟩

end Batch

namespace Plan
variable {t : FileTree} {source : Path} {options : Options} {withTests : Bool} {plan : Plan}
variable {inPlace : Option Path} {catalog : Catalog} {declarations : List Declaration}
variable {batch : Batch}

/-- The plan for a generated text, which goes into a region if a file is given. -/
def place (t : FileTree) (source : Path) (inPlace : Option Path) (batch : Batch)
    (generated : String) : Except Fault Plan :=
  match inPlace with
  | none => .ok { source, batch, generated }
  | some path => do
    let existing ← existingText t path
    let updated ← Region.update existing generated
    return { source, batch, inPlace := true, target := inPlace, generated, existing, updated }

theorem batch_of_place {generated : String}
    (h : place t source inPlace batch generated = .ok plan) : plan.batch = batch := by
  cases inPlace with
  | none =>
    cases h
    rfl
  | some path =>
    obtain ⟨existing, _, h⟩ := bind_eq_ok_iff.mp h
    obtain ⟨updated, _, h⟩ := bind_eq_ok_iff.mp h
    cases h
    rfl

/-- Whether there is a place for a text does not depend on the text. -/
theorem place_isOk {generated : String} (h : place t source inPlace batch generated = .ok plan)
    (other : Batch) (text : String) : ∃ plan', place t source inPlace other text = .ok plan' := by
  cases inPlace with
  | none => exact ⟨_, rfl⟩
  | some path =>
    obtain ⟨existing, hexisting, h⟩ := bind_eq_ok_iff.mp h
    obtain ⟨updated, hupdated, _⟩ := bind_eq_ok_iff.mp h
    obtain ⟨updated', hupdated'⟩ := Region.update_isOk hupdated text
    rw [place, hexisting]
    exact ⟨_, bind_eq_ok_iff.mpr ⟨existing, rfl, bind_eq_ok_iff.mpr ⟨updated', hupdated', rfl⟩⟩⟩

theorem compute_eq_ok_iff [Host] : compute t source options withTests inPlace = .ok plan ↔
    ∃ catalog, options.catalog t = .ok catalog ∧
    ∃ declarations, Declaration.load t source = .ok declarations ∧
    ∃ batch, Batch.derive declarations catalog options withTests = .ok batch ∧
    ∃ generated, batch.render = .ok generated ∧
      place t source inPlace batch generated = .ok plan := by
  unfold compute
  cases inPlace with
  | none =>
    simp only [bind_eq_ok_iff, liftM_fault_eq_ok_iff, place, pure, Except.pure, Except.ok.injEq]
  | some path =>
    simp only [bind_eq_ok_iff, liftM_fault_eq_ok_iff, place, pure, Except.pure, Except.ok.injEq]

theorem compute_eq_fault [Host] (hcatalog : options.catalog t = .ok catalog)
    (hload : Declaration.load t source = .ok declarations)
    (hbatch : Batch.derive declarations catalog options withTests = .ok batch) {fault : Fault}
    (hrender : batch.render = .error fault) :
    compute t source options withTests inPlace = .error (.fault fault) := by
  unfold compute
  simp only [bind_eq_error_iff]
  refine Or.inr ⟨catalog, hcatalog, Or.inr ⟨declarations, hload, Or.inr ⟨batch, ?_, Or.inl ?_⟩⟩⟩
  · exact liftM_fault_eq_ok_iff.mpr hbatch
  · exact mapError_eq_error_iff.mpr ⟨fault, hrender, rfl⟩

end Plan

namespace Command.GenerateRequest
variable {r : GenerateRequest} {options : Options} {verbose : Bool} {s : Session} {plan : Plan}

theorem runFrom_of_fault [Host] {fault : Fault}
    (h : Plan.compute s.tree r.source options r.withTests r.inPlace = .error (.fault fault)) :
    ∃ text, runFrom (r.run options verbose) s = (.error (.fault fault), s.addMessages text) := by
  obtain ⟨text, hreport⟩ :=
    runFrom_report verbose (Plan.reports s.tree r.source options r.withTests) s
  refine ⟨text, ?_⟩
  unfold run
  rw [runFrom_bind_of_ok (runFrom_get s), runFrom_bind_of_ok hreport, h]
  rfl

theorem exitCode_eq_zero_iff {batch : Batch} : exitCode batch = 0 ↔ batch.diagnostics = [] := by
  simp [exitCode, Batch.succeeded, List.isEmpty_iff]

variable [Host]

theorem runFrom_of_compute
    (h : Plan.compute s.tree r.source options r.withTests r.inPlace = .ok plan) :
    ∃ text, runFrom (r.run options verbose) s = runFrom (do
      plan.batch.diagnostics.forM printDiagnostic
      r.deliver plan
      return exitCode plan.batch) (s.addMessages text) := by
  obtain ⟨text, hreport⟩ :=
    runFrom_report verbose (Plan.reports s.tree r.source options r.withTests) s
  refine ⟨text, ?_⟩
  unfold run
  rw [runFrom_bind_of_ok (runFrom_get s), runFrom_bind_of_ok hreport, h]
  rfl

/-- The text that a generation hands to the reader. -/
def readerText (p : Plan) : String := Plan.header ++ "\n" ++ p.generated

theorem runFrom_execute_to_reader (hout : r.out = none) (hplace : plan.inPlace = false)
    (s : Session) :
    runFrom (r.execute plan) s = runFrom (write .results (readerText plan)) s := by
  let written : Written := { printed := readerText plan, tree := s.tree }
  have hwritten : plan.execute s.tree r.out = .ok written := by
    rw [Plan.execute, hplace, hout]
    rfl
  have hannounce : runFrom (r.execute plan) s = runFrom (announce plan written) s := by
    rw [execute, runFrom_bind_of_ok (runFrom_get s), hwritten]
    rfl
  rw [hannounce, announce, runFrom_bind]
  split
  · rename_i hrun
    exact hrun.symm
  · rename_i hrun
    exact hrun.symm

theorem isPrinted_readerText : Text.isPrinted (readerText plan) = Text.isPrinted plan.generated := by
  have hheader : Text.isPrinted (Plan.header ++ "\n") := Text.isPrinted_of_allAscii (by decide)
  rw [readerText, Text.isPrinted_append, hheader, Bool.true_and]

/-- A generation to the reader prints the header and the generated text and changes no file. If the
text cannot be printed, it stops there with nothing printed. -/
theorem run_to_reader {tree : FileTree} {source : Path} {withTests : Bool}
    (h : Plan.compute tree source options withTests none = .ok plan)
    (hdiagnostics : plan.batch.diagnostics = []) :
    ∃ messages, Command.run (run { source, withTests } options verbose) tree =
      if Text.isPrinted plan.generated then
        ⟨.exit 0, { tree, results := readerText plan, messages }⟩
      else ⟨.fault .unencodable, { tree, messages }⟩ := by
  have hplace : plan.inPlace = false := by
    obtain ⟨_, _, _, _, batch, _, generated, _, hplan⟩ := Plan.compute_eq_ok_iff.mp h
    cases hplan
    rfl
  let r : GenerateRequest := { source, withTests }
  obtain ⟨text, hrun⟩ : ∃ text, runFrom (r.run options verbose) { tree } = _ :=
    runFrom_of_compute h
  rw [hdiagnostics, exitCode_eq_zero_iff.mpr hdiagnostics, List.forM, pure_bind] at hrun
  have hexecute := runFrom_execute_to_reader (r := r) rfl hplace (Session.addMessages { tree } text)
  refine ⟨(Session.addMessages { tree } text).messages, ?_⟩
  split
  · rename_i hprinted
    rw [← isPrinted_readerText] at hprinted
    rw [runFrom_write_results hprinted, Session.results_addMessages, String.empty_append] at hexecute
    exact run_of_ok (hrun.trans (runFrom_bind_of_ok hexecute))
  · rename_i hprinted
    rw [← isPrinted_readerText] at hprinted
    rw [runFrom_write_results_of_not_isPrinted (Bool.eq_false_iff.mpr hprinted)] at hexecute
    exact run_of_error (hrun.trans (runFrom_bind_of_error hexecute))

end Command.GenerateRequest
end StructureDerive
