import StructureDerive.Host.Terminal
import StructureDerive.Proofs.FileWriting
import StructureDerive.Proofs.GenerationRun

/-! # What a generation changes

A generation that only shows its plan changes no file. One that executes the plan replaces the file
with the region, or else the output file, and nothing else. The exit code says what became of the
plan and of its targets, so it does not depend on how the plan is shown or where it is written.
-/
namespace StructureDerive
open Outcome

namespace Plan
variable {t t' : FileTree} {source path : Path} {options : Options} {withTests : Bool}
variable {inPlace out : Option Path} {plan : Plan} {written : Written} {text : String}

variable [Host]

/-- The tree after a plan is executed: only the file with the region, or else the output file, is
replaced. -/
structure Effect (p : Plan) (inPlace out : Option Path) (t t' : FileTree) : Prop where
  region : ∀ path, inPlace = some path → ∃ content, Text.utf8? p.updated = some content ∧
    t.Replaced path content t'
  output : ∀ path, inPlace = none → out = some path → ∃ content,
    Text.utf8? (header ++ "\n" ++ p.generated) = some content ∧ t.Replaced path content t'
  reader : inPlace = none → out = none → t' = t

/-- A plan for a file with a region has that file as its target. -/
theorem target_of_compute (h : compute t source options withTests inPlace = .ok plan) :
    plan.inPlace = inPlace.isSome ∧ plan.target = inPlace := by
  obtain ⟨_, _, _, _, _, _, _, _, hplace⟩ := compute_eq_ok_iff.mp h
  cases inPlace with
  | none =>
    cases hplace
    exact ⟨rfl, rfl⟩
  | some path =>
    obtain ⟨_, _, hplace⟩ := bind_eq_ok_iff.mp hplace
    obtain ⟨_, _, hplace⟩ := bind_eq_ok_iff.mp hplace
    cases hplace
    exact ⟨rfl, rfl⟩

theorem replaced_of_writeText (h : writeText t path text = .ok written)
    (hfault : written.fault = none) : written.problem = none ∧
      ∃ content, Text.utf8? text = some content ∧ t.Replaced path content written.tree := by
  unfold writeText at h
  split at h
  · rename_i content hcontent
    obtain ⟨t', ht', h⟩ := bind_eq_ok_iff.mp h
    cases h
    exact ⟨rfl, content, hcontent, FileTree.replaced_of_write ht'⟩
  · obtain ⟨_, _, h⟩ := bind_eq_ok_iff.mp h
    cases h
    cases hfault

/-- A computed plan has no problem when it is executed, and without a fault only its own file is
replaced. -/
theorem effect_of_execute (h : compute t source options withTests inPlace = .ok plan)
    (hwritten : plan.execute t out = .ok written) (hfault : written.fault = none) :
    written.problem = none ∧ plan.Effect inPlace out t written.tree := by
  obtain ⟨hplace, htarget⟩ := target_of_compute h
  rw [execute, hplace, htarget] at hwritten
  cases inPlace with
  | some path =>
    obtain ⟨hproblem, hregion⟩ := replaced_of_writeText hwritten hfault
    refine ⟨hproblem, ?_, ?_, ?_⟩
    · rintro _ ⟨⟩
      exact hregion
    · rintro _ ⟨⟩
    · rintro ⟨⟩
  | none =>
    cases out with
    | some path =>
      obtain ⟨hproblem, houtput⟩ := replaced_of_writeText hwritten hfault
      refine ⟨hproblem, ?_, ?_, ?_⟩
      · rintro _ ⟨⟩
      · rintro _ _ ⟨⟩
        exact houtput
      · rintro _ ⟨⟩
    | none =>
      cases hwritten
      refine ⟨rfl, ?_, ?_, fun _ _ => rfl⟩
      · rintro _ ⟨⟩
      · rintro _ _ ⟨⟩

end Plan

namespace Command.GenerateRequest
variable {r : GenerateRequest} {options : Options} {verbose : Bool} {s : Session} {plan : Plan}
variable {tree : FileTree} {code : Nat}

section
variable [Host]

theorem informs_printDiagnostic (d : Diagnostic) : Informs (printDiagnostic d) :=
  (informs_printStyled _).bind (Informs.forM (fun _ => informs_print _) _)

theorem shows_preview (p : Plan) : Shows (preview p) := by
  refine (informs_printStyled _).shows.bind fun _ => ?_
  refine (shows_orFault _).bind fun _ => ?_
  refine (informs_printStyled _).shows.bind fun _ => ?_
  split
  · exact shows_write _ _
  · exact shows_pure _

theorem shows_deliver (hshown : r.json = true ∨ r.dryRun = true) (p : Plan) :
    Shows (r.deliver p) := by
  unfold deliver
  split
  · exact shows_write _ _
  · rename_i hjson
    have hdry := hshown.resolve_left hjson
    rw [if_pos hdry]
    exact shows_preview p

/-- A generation that shows its plan changes no file, not even if it stops at a fault. -/
theorem keepsTree_run (hshown : r.json = true ∨ r.dryRun = true) :
    KeepsTree (r.run options verbose) := by
  have hget : KeepsTree (get : Command Session) := fun _ => rfl
  refine hget.bind fun s => ?_
  refine (keepsTree_report _ _).bind fun _ => ?_
  refine (keepsTree_orElse_failWith _).bind fun plan => ?_
  have hdiagnostics : Informs (plan.batch.diagnostics.forM printDiagnostic) :=
    Informs.forM informs_printDiagnostic _
  refine hdiagnostics.shows.keepsTree.bind fun _ => ?_
  exact (shows_deliver hshown plan).keepsTree.bind fun _ => keepsTree_pure _

theorem runFrom_of_cause {cause : Cause}
    (h : Plan.compute s.tree r.source options r.withTests r.inPlace = .error (.cause cause)) :
    ∃ text, runFrom (r.run options verbose) s = (.error (.exit 1), s.addMessages text) := by
  obtain ⟨text, hreport⟩ :=
    runFrom_report verbose (Plan.reports s.tree r.source options r.withTests) s
  obtain ⟨shown, hprint⟩ : ∃ shown, runFrom (print .messages cause.message) (s.addMessages text) =
      (.ok (), (s.addMessages text).addMessages shown) := ⟨_, rfl⟩
  have hfail : runFrom (orElse (.error (.cause cause)) failWith : Command Plan) (s.addMessages text) =
      (.error (.exit 1), (s.addMessages text).addMessages shown) := by
    rw [orElse, failWith, runFrom_bind_of_ok hprint]
    rfl
  refine ⟨text ++ shown, ?_⟩
  unfold run
  rw [runFrom_bind_of_ok (runFrom_get s), runFrom_bind_of_ok hreport, h,
    runFrom_bind_of_error hfail, s.addMessages_addMessages]

theorem shows_announce (p : Plan) (written : Written) : Shows (announce p written) := by
  refine (shows_write _ _).bind fun _ => ?_
  cases written.output with
  | none => exact shows_pure _
  | some path => exact (informs_printStyled _).shows

/-- An execution after which a command exits has met neither a fault nor a problem. -/
theorem runFrom_execute_of_exit {c : Command Nat}
    (hproblem : ∀ written, plan.execute s.tree r.out = .ok written → written.fault = none →
      written.problem = none)
    (h : endFrom (r.execute plan >>= fun _ => c) s = .exit code) :
    ∃ written s', plan.execute s.tree r.out = .ok written ∧ written.fault = none ∧
      runFrom (r.execute plan) s = (.ok (), s') ∧ s'.tree = written.tree := by
  match hwritten : plan.execute s.tree r.out with
  | .error fault =>
    have hrun : runFrom (r.execute plan) s = (.error (.fault fault), s) := by
      rw [execute, runFrom_bind_of_ok (runFrom_get s), hwritten]
      rfl
    rw [endFrom_bind_of_error hrun] at h
    cases h
  | .ok ⟨_, _, _, _, some fault, tree⟩ =>
    have hrun : runFrom (r.execute plan) s = (.error (.fault fault), { s with tree }) := by
      rw [execute, runFrom_bind_of_ok (runFrom_get s), hwritten]
      rfl
    rw [endFrom_bind_of_error hrun] at h
    cases h
  | .ok ⟨_, some _, _, _, none, _⟩ => cases hproblem _ hwritten rfl
  | .ok ⟨bytes, none, output, printed, none, tree⟩ =>
    let written : Written := ⟨bytes, none, output, printed, none, tree⟩
    have hrun : runFrom (r.execute plan) s =
        runFrom (announce plan written) { s with tree } := by
      rw [execute, runFrom_bind_of_ok (runFrom_get s), hwritten]
      rfl
    have hend : endFrom (announce plan written >>= fun _ => c) { s with tree } = .exit code := by
      rw [endFrom, runFrom_bind] at h ⊢
      rwa [hrun] at h
    obtain ⟨_, s', hannounce, htree⟩ := (shows_announce plan written).runFrom_of_exit hend
    exact ⟨written, s', rfl, rfl, hrun.trans hannounce, htree⟩

/-- Only a generation that does more than to show its plan executes it. -/
theorem runFrom_deliver_of_exit {c : Command Nat}
    (hplan : Plan.compute s.tree r.source options r.withTests r.inPlace = .ok plan)
    (h : endFrom (r.deliver plan >>= fun _ => c) s = .exit code) :
    ∃ s', runFrom (r.deliver plan) s = (.ok (), s') ∧
      (r.json = false → r.dryRun = false → plan.Effect r.inPlace r.out s.tree s'.tree) := by
  by_cases hshown : r.json = true ∨ r.dryRun = true
  · obtain ⟨_, s', hrun, -⟩ := (shows_deliver hshown plan).runFrom_of_exit h
    refine ⟨s', hrun, fun hjson hdry => ?_⟩
    simp [hjson, hdry] at hshown
  · obtain ⟨hjson, hdry⟩ := not_or.mp hshown
    have hdeliver : r.deliver plan = r.execute plan := by
      rw [deliver, if_neg hjson, if_neg hdry]
    rw [hdeliver] at h ⊢
    obtain ⟨written, s', hwritten, hfault, hrun, htree⟩ := runFrom_execute_of_exit
      (fun _ hwritten hfault => (Plan.effect_of_execute hplan hwritten hfault).1) h
    refine ⟨s', hrun, fun _ _ => ?_⟩
    rw [htree]
    exact (Plan.effect_of_execute hplan hwritten hfault).2

/-- How a generation with an exit code has ended: without a plan, or with the code for the batch of
its plan. -/
theorem outcome_of_exit
    (h : Command.run (r.run options verbose) tree = ⟨.exit code, s⟩) :
    ((∃ cause, Plan.compute tree r.source options r.withTests r.inPlace = .error (.cause cause)) ∧
      code = 1 ∧ s.tree = tree) ∨
    ∃ plan, Plan.compute tree r.source options r.withTests r.inPlace = .ok plan ∧
      code = exitCode plan.batch ∧
      (r.json = false → r.dryRun = false → plan.Effect r.inPlace r.out tree s.tree) := by
  have hend := (ending_run (r.run options verbose) tree).symm
  have hsession := (session_run (r.run options verbose) tree).symm
  rw [h] at hend hsession
  dsimp only at hend hsession
  match hplan : Plan.compute tree r.source options r.withTests r.inPlace with
  | .error (.fault fault) =>
    obtain ⟨text, hrun⟩ : ∃ text, runFrom (r.run options verbose) { tree } = _ :=
      runFrom_of_fault hplan
    rw [endFrom, hrun] at hend
    cases hend
  | .error (.cause cause) =>
    obtain ⟨text, hrun⟩ : ∃ text, runFrom (r.run options verbose) { tree } = _ :=
      runFrom_of_cause hplan
    rw [endFrom, hrun] at hend
    rw [hrun] at hsession
    cases hend
    refine Or.inl ⟨⟨cause, rfl⟩, rfl, ?_⟩
    rw [← hsession, Session.tree_addMessages]
  | .ok plan =>
    refine Or.inr ⟨plan, rfl, ?_⟩
    obtain ⟨reported, hrun⟩ : ∃ text, runFrom (r.run options verbose) { tree } = _ :=
      runFrom_of_compute hplan
    have hdiagnostics : Informs (plan.batch.diagnostics.forM printDiagnostic) :=
      Informs.forM informs_printDiagnostic _
    rw [endFrom, hrun] at hend
    rw [hrun] at hsession
    obtain ⟨printed, hprint⟩ := hdiagnostics.runFrom_of_exit hend
    rw [runFrom_bind_of_ok hprint, Session.addMessages_addMessages] at hend hsession
    obtain ⟨s', hdeliver, heffect⟩ := runFrom_deliver_of_exit
      (s := Session.addMessages { tree } (reported ++ printed)) hplan hend
    rw [runFrom_bind_of_ok hdeliver] at hend hsession
    cases hend
    rw [← hsession]
    exact ⟨rfl, heffect⟩

/-- A generation with an exit code has changed the planned file at most, and none if it only shows
its plan or has none. The code is that of the targets, however the plan is delivered. -/
theorem run_changes_planned_file
    (h : Command.run (r.run options verbose) tree = ⟨.exit code, s⟩) :
    (code = 0 ∨ code = 1) ∧
    (code = 0 ↔ ∃ plan, Plan.compute tree r.source options r.withTests r.inPlace = .ok plan ∧
      plan.batch.diagnostics = []) ∧
    (r.json = true ∨ r.dryRun = true ∨
      (∀ plan, Plan.compute tree r.source options r.withTests r.inPlace ≠ .ok plan) →
        s.tree = tree) ∧
    (∀ plan, Plan.compute tree r.source options r.withTests r.inPlace = .ok plan →
      r.json = false → r.dryRun = false → plan.Effect r.inPlace r.out tree s.tree) ∧
    (∀ out json dryRun verbose' code' s',
      Command.run (run { r with out, json, dryRun } options verbose') tree = ⟨.exit code', s'⟩ →
        code' = code) := by
  have hkeeps : r.json = true ∨ r.dryRun = true → s.tree = tree := by
    intro hshown
    have htree : (runFrom (r.run options verbose) { tree }).2.tree = tree :=
      keepsTree_run hshown { tree }
    rwa [← session_run, h] at htree
  rcases outcome_of_exit h with ⟨⟨cause, hcause⟩, rfl, htree⟩ | ⟨plan, hplan, rfl, heffect⟩
  · have hnone : ∀ plan,
        Plan.compute tree r.source options r.withTests r.inPlace ≠ .ok plan := by
      intro plan hplan
      cases hcause.symm.trans hplan
    refine ⟨Or.inr rfl, ?_, fun _ => htree, fun plan hplan => absurd hplan (hnone plan), ?_⟩
    · exact iff_of_false (by decide) fun ⟨plan, hplan, _⟩ => hnone plan hplan
    · intro out json dryRun verbose' code' s' h'
      rcases outcome_of_exit h' with ⟨_, rfl, _⟩ | ⟨plan', hplan', _⟩
      · rfl
      · exact absurd hplan' (hnone plan')
  · have hunique : ∀ plan',
        Plan.compute tree r.source options r.withTests r.inPlace = .ok plan' → plan' = plan := by
      intro plan' hplan'
      exact Except.ok.inj (hplan'.symm.trans hplan)
    refine ⟨?_, ?_, ?_, ?_, ?_⟩
    · unfold exitCode
      split <;> simp
    · rw [exitCode_eq_zero_iff]
      refine ⟨fun hdiagnostics => ⟨plan, hplan, hdiagnostics⟩, ?_⟩
      rintro ⟨plan', hplan', hdiagnostics⟩
      rwa [hunique plan' hplan'] at hdiagnostics
    · rintro (hjson | hdry | hnone)
      · exact hkeeps (Or.inl hjson)
      · exact hkeeps (Or.inr hdry)
      · exact absurd hplan (hnone plan)
    · intro plan' hplan' hjson hdry
      rw [hunique plan' hplan']
      exact heffect hjson hdry
    · intro out json dryRun verbose' code' s' h'
      rcases outcome_of_exit h' with ⟨⟨cause, hcause⟩, _⟩ | ⟨plan', hplan', rfl, _⟩
      · cases hcause.symm.trans hplan
      · rw [hunique plan' hplan']

end

attribute [local instance] Host.terminal

/-- A target that fails sets the exit code, and the region is written all the same. -/
theorem run_changes_planned_file_of_failing_target :
    let source : Path := ⟨"", ["d.toml"]⟩
    let target : Path := ⟨"", ["src", "lib.rs"]⟩
    let tree : FileTree := { nodes := [
      (["d.toml"], .file "targets = [\x7bname=\"W\",traits=[\"Loop\"]\x7d]".toUTF8),
      (["src"], .folder), (["src", "lib.rs"], .file "pub struct W;\n".toUTF8)] }
    let r : GenerateRequest := { source, inPlace := some target }
    ∃ s plan, Command.run (r.run {} false) tree = ⟨.exit 1, s⟩ ∧
      Plan.compute tree source {} true (some target) = .ok plan ∧ plan.batch.diagnostics ≠ [] ∧
      plan.Effect (some target) none tree s.tree := by
  intro source target tree r
  have hending : (Command.run (r.run {} false) tree).ending = .exit 1 := by decide +kernel
  have hcomputes : (Plan.compute tree source {} true (some target)).toOption.isSome := by
    decide +kernel
  obtain ⟨plan, hsome⟩ := Option.isSome_iff_exists.mp hcomputes
  have hplan := toOption_eq_some_iff.mp hsome
  cases h : Command.run (r.run {} false) tree with
  | mk ending s =>
    rw [h] at hending
    cases hending
    obtain ⟨-, hcode, -, heffect, -⟩ := run_changes_planned_file h
    refine ⟨s, plan, rfl, hplan, fun hdiagnostics => ?_, heffect plan hplan rfl rfl⟩
    exact absurd (hcode.mpr ⟨plan, hplan, hdiagnostics⟩) (by decide)

end Command.GenerateRequest
end StructureDerive
