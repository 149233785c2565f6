import StructureDerive.Command.Expansion

/-! # Steps of commands

A command hands its session from step to step, and a step that stops ends the whole command. Most
steps only inform the reader: they add messages and leave the results and the files as they are.
-/
namespace StructureDerive

def Session.addMessages (s : Session) (text : String) : Session :=
  { s with messages := s.messages ++ text }

namespace Session
variable (s : Session) (text more : String)

@[simp] theorem results_addMessages : (s.addMessages text).results = s.results := rfl

@[simp] theorem tree_addMessages : (s.addMessages text).tree = s.tree := rfl

theorem addMessages_addMessages :
    (s.addMessages text).addMessages more = s.addMessages (text ++ more) := by
  simp [addMessages, String.append_assoc]

theorem addMessages_empty : s.addMessages "" = s := by simp [addMessages]

end Session

namespace Command
variable {α β : Type} {x : Command α} {f : α → Command β} {s s' : Session} {a : α} {stop : Stop}

/-- What a step gives from a session on, and the session that it leaves. -/
def runFrom (x : Command α) (s : Session) : Except Stop α × Session := (ExceptT.run x).run s

theorem runFrom_get (s : Session) : runFrom get s = (.ok s, s) := rfl

theorem runFrom_bind (x : Command α) (f : α → Command β) (s : Session) :
    runFrom (x >>= f) s = match runFrom x s with
      | (.ok a, s') => runFrom (f a) s'
      | (.error stop, s') => (.error stop, s') := by
  unfold runFrom
  rw [ExceptT.run_bind, StateT.run_bind]
  obtain ⟨outcome, s'⟩ := (ExceptT.run x).run s
  cases outcome <;> rfl

theorem runFrom_bind_of_ok (h : runFrom x s = (.ok a, s')) :
    runFrom (x >>= f) s = runFrom (f a) s' := by
  rw [runFrom_bind, h]

theorem runFrom_bind_of_error (h : runFrom x s = (.error stop, s')) :
    runFrom (x >>= f) s = (.error stop, s') := by
  rw [runFrom_bind, h]

theorem run_of_ok {c : Command Nat} {code : Nat} {tree : FileTree}
    (h : runFrom c { tree } = (.ok code, s)) : c.run tree = ⟨.exit code, s⟩ := by
  unfold runFrom at h
  rw [run, h]

theorem run_of_error {c : Command Nat} {tree : FileTree}
    (h : runFrom c { tree } = (.error stop, s)) : c.run tree = ⟨stop, s⟩ := by
  unfold runFrom at h
  rw [run, h]

/-- A step that adds messages and does nothing else. It may stop at a fault. -/
def Informs (x : Command Unit) : Prop :=
  ∀ s, ∃ text, runFrom x s = (.ok (), s.addMessages text) ∨
    ∃ fault, runFrom x s = (.error (.fault fault), s.addMessages text)

theorem informs_pure : Informs (pure ()) := by
  intro s
  refine ⟨"", Or.inl ?_⟩
  rw [s.addMessages_empty]
  rfl

theorem Informs.bind {x y : Command Unit} (hx : Informs x) (hy : Informs y) :
    Informs (x >>= fun _ => y) := by
  intro s
  obtain ⟨first, h | ⟨fault, h⟩⟩ := hx s
  · obtain ⟨second, h'⟩ := hy (s.addMessages first)
    rw [s.addMessages_addMessages] at h'
    rw [runFrom_bind_of_ok h]
    exact ⟨first ++ second, h'⟩
  · exact ⟨first, Or.inr ⟨fault, runFrom_bind_of_error h⟩⟩

theorem Informs.forM {ι : Type} {g : ι → Command Unit} (hg : ∀ i, Informs (g i)) (is : List ι) :
    Informs (is.forM g) := by
  induction is with
  | nil => exact informs_pure
  | cons i is ih => exact (hg i).bind ih

/-- How a command ends from a session on. -/
def endFrom (c : Command Nat) (s : Session) : Stop :=
  match (runFrom c s).1 with
  | .ok code => .exit code
  | .error stop => stop

theorem ending_run (c : Command Nat) (tree : FileTree) :
    (c.run tree).ending = endFrom c { tree } := by
  unfold Command.run endFrom runFrom
  obtain ⟨outcome, s⟩ := (ExceptT.run c).run { tree }
  cases outcome <;> rfl

theorem session_run (c : Command Nat) (tree : FileTree) :
    (c.run tree).session = (runFrom c { tree }).2 := by
  unfold Command.run runFrom
  obtain ⟨outcome, s⟩ := (ExceptT.run c).run { tree }
  cases outcome <;> rfl

theorem endFrom_bind_of_ok {f : α → Command Nat} (h : runFrom x s = (.ok a, s')) :
    endFrom (x >>= f) s = endFrom (f a) s' := by
  rw [endFrom, endFrom, runFrom_bind_of_ok h]

theorem endFrom_bind_of_error {f : α → Command Nat} (h : runFrom x s = (.error stop, s')) :
    endFrom (x >>= f) s = stop := by
  rw [endFrom, runFrom_bind_of_error h]

theorem orFault_of_exit {outcome : Except Fault α} {f : α → Command Nat} {code : Nat}
    (h : endFrom (orFault outcome >>= f) s = .exit code) :
    ∃ a, outcome = .ok a ∧ endFrom (f a) s = .exit code := by
  match outcome with
  | .ok a => exact ⟨a, rfl, h⟩
  | .error fault =>
    have hstop : endFrom (orFault (.error fault) >>= f) s = .fault fault := rfl
    cases hstop.symm.trans h

/-- A step that informs has gone on if the command ends with an exit code. -/
theorem Informs.runFrom_of_exit {x : Command Unit} {c : Command Nat} {code : Nat} (hx : Informs x)
    (h : endFrom (x >>= fun _ => c) s = .exit code) :
    ∃ text, runFrom x s = (.ok (), s.addMessages text) := by
  obtain ⟨text, hrun | ⟨fault, hrun⟩⟩ := hx s
  · exact ⟨text, hrun⟩
  · rw [endFrom_bind_of_error hrun] at h
    cases h

theorem Informs.of_exit {x : Command Unit} {c : Command Nat} {code : Nat} (hx : Informs x)
    (h : endFrom (x >>= fun _ => c) s = .exit code) :
    ∃ text, endFrom c (s.addMessages text) = .exit code := by
  obtain ⟨text, hrun⟩ := hx.runFrom_of_exit h
  rw [endFrom_bind_of_ok hrun] at h
  exact ⟨text, h⟩

/-- A step that changes no file, however it ends. -/
def KeepsTree (x : Command α) : Prop := ∀ s, (runFrom x s).2.tree = s.tree

theorem keepsTree_pure (a : α) : KeepsTree (pure a) := fun _ => rfl

theorem keepsTree_throw (stop : Stop) : KeepsTree (throw stop : Command α) := fun _ => rfl

theorem KeepsTree.bind (hx : KeepsTree x) (hf : ∀ a, KeepsTree (f a)) : KeepsTree (x >>= f) := by
  intro s
  have hfirst := hx s
  rw [runFrom_bind]
  split
  · rename_i a s' hrun
    rw [hrun] at hfirst
    exact (hf a s').trans hfirst
  · rename_i stop s' hrun
    rw [hrun] at hfirst
    exact hfirst

/-- A step that changes no file and does not end the command with an exit code: it goes on, or it
stops at a fault. -/
structure Shows (x : Command α) : Prop where
  keepsTree : KeepsTree x
  neverExits : ∀ s code, (runFrom x s).1 ≠ .error (.exit code)

theorem shows_pure (a : α) : Shows (pure a) := by
  refine ⟨keepsTree_pure a, ?_⟩
  rintro s code ⟨⟩

theorem shows_orFault (outcome : Except Fault α) : Shows (orFault outcome) := by
  cases outcome with
  | ok a => exact shows_pure a
  | error fault =>
    refine ⟨keepsTree_throw _, ?_⟩
    rintro s code ⟨⟩

theorem Shows.bind (hx : Shows x) (hf : ∀ a, Shows (f a)) : Shows (x >>= f) := by
  refine ⟨hx.keepsTree.bind fun a => (hf a).keepsTree, ?_⟩
  intro s code
  have hfirst := hx.neverExits s code
  rw [runFrom_bind]
  split
  · exact (hf _).neverExits _ code
  · rename_i stop s' hrun
    rw [hrun] at hfirst
    rintro ⟨⟩
    exact hfirst rfl

theorem Informs.shows {x : Command Unit} (hx : Informs x) : Shows x := by
  refine ⟨fun s => ?_, fun s code => ?_⟩
  · obtain ⟨text, h | ⟨fault, h⟩⟩ := hx s
    · rw [h, s.tree_addMessages]
    · rw [h, s.tree_addMessages]
  · obtain ⟨text, h | ⟨fault, h⟩⟩ := hx s
    · rw [h]
      rintro ⟨⟩
    · rw [h]
      rintro ⟨⟩

theorem Shows.runFrom_of_exit {f : α → Command Nat} {code : Nat} (hx : Shows x)
    (h : endFrom (x >>= f) s = .exit code) :
    ∃ a s', runFrom x s = (.ok a, s') ∧ s'.tree = s.tree := by
  have htree := hx.keepsTree s
  match hrun : runFrom x s with
  | (.ok a, s') =>
    rw [hrun] at htree
    exact ⟨a, s', rfl, htree⟩
  | (.error stop, s') =>
    rw [endFrom_bind_of_error hrun] at h
    have hstop := hx.neverExits s code
    rw [hrun, h] at hstop
    exact absurd rfl hstop

variable [Host]

theorem informs_write (text : String) : Informs (write .messages text) :=
  fun _ => ⟨text, Or.inl rfl⟩

theorem informs_print (text : String) : Informs (print .messages text) := informs_write _

theorem informs_printStyled (text : String) : Informs (printStyled .messages text) := by
  intro s
  cases h : Host.screen.styled text with
  | ok shown =>
    refine ⟨shown, Or.inl ?_⟩
    rw [printStyled, h]
    rfl
  | error fault =>
    refine ⟨"", Or.inr ⟨fault, ?_⟩⟩
    rw [printStyled, h, s.addMessages_empty]
    rfl

theorem runFrom_report (verbose : Bool) (reports : List Report) (s : Session) :
    ∃ text, runFrom (report verbose reports) s = (.ok (), s.addMessages text) := by
  unfold report
  dsimp only
  generalize reports.filter _ = shown
  induction shown generalizing s with
  | nil => exact ⟨"", by rw [s.addMessages_empty]; rfl⟩
  | cons r shown ih =>
    obtain ⟨text, htext⟩ := ih (s.addMessages (r.text ++ "\n"))
    rw [s.addMessages_addMessages] at htext
    exact ⟨_, htext⟩

/-- A command that ends well has met no cause that would have ended it badly. -/
theorem orElse_of_exit_zero {outcome : Except Failure α} {f : α → Command Nat}
    (h : endFrom (orElse outcome failWith >>= f) s = .exit 0) :
    ∃ a, outcome = .ok a ∧ endFrom (f a) s = .exit 0 := by
  match outcome with
  | .ok a => exact ⟨a, rfl, h⟩
  | .error (.cause cause) =>
    have hstop : endFrom (orElse (.error (.cause cause)) failWith >>= f) s = .exit 1 := rfl
    cases hstop.symm.trans h
  | .error (.fault fault) =>
    have hstop : endFrom (orElse (.error (.fault fault)) failWith >>= f) s = .fault fault := rfl
    cases hstop.symm.trans h

theorem runFrom_write_results {text : String} (h : Text.isPrinted text) (s : Session) :
    runFrom (write .results text) s = (.ok (), { s with results := s.results ++ text }) := by
  rw [write, if_pos h]
  rfl

theorem runFrom_write_results_of_not_isPrinted {text : String} (h : Text.isPrinted text = false)
    (s : Session) : runFrom (write .results text) s = (.error (.fault .unencodable), s) := by
  rw [write, h]
  rfl

theorem shows_write (stream : Stream) (text : String) : Shows (write stream text) := by
  cases stream with
  | results =>
    rw [write]
    split
    · exact ⟨fun _ => rfl, fun _ _ => nofun⟩
    · exact ⟨fun _ => rfl, fun _ _ => nofun⟩
  | messages => exact ⟨fun _ => rfl, fun _ _ => nofun⟩

theorem keepsTree_orElse_failWith (outcome : Except Failure α) :
    KeepsTree (orElse outcome failWith) := by
  match outcome with
  | .ok a => exact keepsTree_pure a
  | .error (.cause cause) =>
    exact (informs_print _).shows.keepsTree.bind fun _ => keepsTree_throw _
  | .error (.fault fault) => exact keepsTree_throw _

theorem keepsTree_report (verbose : Bool) (reports : List Report) :
    KeepsTree (report verbose reports) := by
  intro s
  obtain ⟨text, h⟩ := runFrom_report verbose reports s
  rw [h, s.tree_addMessages]

end Command
end StructureDerive
