import Mathlib.Data.List.Forall2
import StructureDerive.Cause

/-! # Outcomes of steps that may fail

A sequence of steps succeeds exactly when each of its steps does. The lifts from causes and from
faults keep every success, so that they leave no trace in the statements about one.
-/
namespace StructureDerive.Outcome
variable {ε δ α β : Type}

theorem bind_eq_ok_iff {x : Except ε α} {f : α → Except ε β} {b : β} :
    x >>= f = .ok b ↔ ∃ a, x = .ok a ∧ f a = .ok b := by
  cases x <;> simp [bind, Except.bind]

theorem bind_eq_error_iff {x : Except ε α} {f : α → Except ε β} {cause : ε} :
    x >>= f = .error cause ↔ x = .error cause ∨ ∃ a, x = .ok a ∧ f a = .error cause := by
  cases x <;> simp [bind, Except.bind]

theorem map_eq_ok_iff {f : α → β} {x : Except ε α} {b : β} :
    x.map f = .ok b ↔ ∃ a, x = .ok a ∧ f a = b := by
  cases x <;> simp [Except.map]

theorem map_eq_error_iff {f : α → β} {x : Except ε α} {cause : ε} :
    x.map f = .error cause ↔ x = .error cause := by
  cases x <;> simp [Except.map]

theorem mapError_eq_ok_iff {f : ε → δ} {x : Except ε α} {a : α} :
    x.mapError f = .ok a ↔ x = .ok a := by
  cases x with
  | error cause => constructor <;> intro h <;> cases h
  | ok b =>
    constructor
    · intro h
      cases h
      rfl
    · intro h
      cases h
      rfl

theorem mapError_eq_error_iff {f : ε → δ} {x : Except ε α} {d : δ} :
    x.mapError f = .error d ↔ ∃ cause, x = .error cause ∧ f cause = d := by
  cases x with
  | ok a =>
    constructor
    · intro h
      cases h
    · rintro ⟨_, h, _⟩
      cases h
  | error cause =>
    constructor
    · intro h
      cases h
      exact ⟨cause, rfl, rfl⟩
    · rintro ⟨_, h, rfl⟩
      cases h
      rfl

theorem liftM_fault_ok (a : α) : (liftM (.ok a : Except Fault α) : Except Failure α) = pure a := rfl

theorem liftM_cause_eq_ok_iff [Host] {x : Except Cause α} {a : α} :
    (liftM x : Except Failure α) = .ok a ↔ x = .ok a := mapError_eq_ok_iff

theorem liftM_fault_eq_ok_iff {x : Except Fault α} {a : α} :
    (liftM x : Except Failure α) = .ok a ↔ x = .ok a := mapError_eq_ok_iff

theorem toOption_eq_some_iff {x : Except ε α} {a : α} : x.toOption = some a ↔ x = .ok a := by
  cases x <;> simp [Except.toOption]

theorem exists_ok_of_any {x : Except ε α} {p : α → Bool} (h : x.toOption.any p = true) :
    ∃ a, x = .ok a ∧ p a = true := by
  obtain ⟨a, ha, hp⟩ := (Option.any_eq_true _ _).mp h
  exact ⟨a, toOption_eq_some_iff.mp ha, hp⟩

theorem throw_ne_ok {x : ε} {a : α} : (throw x : Except ε α) ≠ .ok a := by
  intro h
  cases h

/-- A list of steps succeeds when all its members do. The default stands for none of them then. -/
theorem mapM_eq_ok_iff (default : β) {f : α → Except ε β} {xs : List α} {ys : List β} :
    xs.mapM f = .ok ys ↔
      (∀ x ∈ xs, ∃ y, f x = .ok y) ∧ ys = xs.map fun x => (f x).toOption.getD default := by
  induction xs generalizing ys with
  | nil => simp [pure, Except.pure, eq_comm]
  | cons x xs ih =>
    cases hx : f x with
    | error cause => simp [List.mapM_cons, bind, Except.bind, hx]
    | ok y =>
      simp only [List.mapM_cons, bind_eq_ok_iff, ih, List.forall_mem_cons, List.map_cons, hx, pure,
        Except.pure, Except.toOption, Except.ok.injEq, Option.getD_some]
      constructor
      · rintro ⟨_, rfl, _, ⟨hxs, rfl⟩, rfl⟩
        exact ⟨⟨⟨y, rfl⟩, hxs⟩, rfl⟩
      · rintro ⟨⟨_, hxs⟩, rfl⟩
        exact ⟨y, rfl, _, ⟨hxs, rfl⟩, rfl⟩

/-- The results of a list of steps stand one by one beside the members that gave them. -/
theorem mapM_eq_ok_iff_forall₂ {f : α → Except ε β} {xs : List α} {ys : List β} :
    xs.mapM f = .ok ys ↔ List.Forall₂ (fun x y => f x = .ok y) xs ys := by
  induction xs generalizing ys with
  | nil => simp [pure, Except.pure, eq_comm]
  | cons x xs ih =>
    simp only [List.mapM_cons, bind_eq_ok_iff, ih, pure, Except.pure, Except.ok.injEq,
      List.forall₂_cons_left_iff]
    constructor
    · rintro ⟨y, hy, rest, hrest, rfl⟩
      exact ⟨y, rest, hy, hrest, rfl⟩
    · rintro ⟨y, rest, hy, hrest, rfl⟩
      exact ⟨y, hy, rest, hrest, rfl⟩

/-- A list of steps that succeed on the members with a property, each with a known result. -/
theorem mapM_eq_ok_iff_of_steps {f : α → Except ε β} {p : α → Prop} {g : α → β}
    (h : ∀ x y, f x = .ok y ↔ p x ∧ g x = y) {xs : List α} {ys : List β} :
    xs.mapM f = .ok ys ↔ (∀ x ∈ xs, p x) ∧ xs.map g = ys := by
  simp only [mapM_eq_ok_iff_forall₂, h]
  induction xs generalizing ys with
  | nil => simp [eq_comm]
  | cons x xs ih =>
    rw [List.forall₂_cons_left_iff, List.forall_mem_cons, List.map_cons]
    constructor
    · rintro ⟨y, rest, ⟨hx, rfl⟩, hrest, rfl⟩
      obtain ⟨hxs, rfl⟩ := ih.mp hrest
      exact ⟨⟨hx, hxs⟩, rfl⟩
    · rintro ⟨⟨hx, hxs⟩, rfl⟩
      exact ⟨_, _, ⟨hx, rfl⟩, ih.mpr ⟨hxs, rfl⟩, rfl⟩

theorem exists_of_mem_forall₂ {R : α → β → Prop} {xs : List α} {ys : List β}
    (h : List.Forall₂ R xs ys) {y : β} (hy : y ∈ ys) : ∃ x ∈ xs, R x y := by
  obtain ⟨i, hi, rfl⟩ := List.mem_iff_getElem.mp hy
  have hlen : i < xs.length := h.length_eq ▸ hi
  exact ⟨xs[i], List.getElem_mem hlen, h.get hlen hi⟩

theorem exists_of_mem_mapM {f : α → Except ε β} {xs : List α} {ys : List β}
    (h : xs.mapM f = .ok ys) {y : β} (hy : y ∈ ys) : ∃ x ∈ xs, f x = .ok y :=
  exists_of_mem_forall₂ (mapM_eq_ok_iff_forall₂.mp h) hy

/-- A run over lists one after the other is a run of runs. -/
theorem foldlM_flatMap {f : β → α → Except ε β} {g : δ → List α} {xs : List δ} {b : β} :
    (xs.flatMap g).foldlM f b = xs.foldlM (fun b x => (g x).foldlM f b) b := by
  induction xs generalizing b with
  | nil => rfl
  | cons x xs ih => simp [ih]

/-- A list of steps fails with its first member that does. -/
theorem mapM_eq_error_iff {f : α → Except ε β} {xs : List α} {cause : ε} :
    xs.mapM f = .error cause ↔ ∃ before x after, xs = before ++ x :: after ∧
      (∀ b ∈ before, ∃ y, f b = .ok y) ∧ f x = .error cause := by
  induction xs with
  | nil => simp [pure, Except.pure]
  | cons x xs ih =>
    rw [List.mapM_cons, bind_eq_error_iff]
    constructor
    · rintro (hx | ⟨y, hy, h⟩)
      · exact ⟨[], x, xs, rfl, by simp, hx⟩
      · rw [bind_eq_error_iff, ih] at h
        rcases h with ⟨before, z, after, rfl, hbefore, hz⟩ | ⟨ys, _, h⟩
        · exact ⟨x :: before, z, after, rfl, List.forall_mem_cons.mpr ⟨⟨y, hy⟩, hbefore⟩, hz⟩
        · cases h
    · rintro ⟨before, z, after, hxs, hbefore, hz⟩
      cases before with
      | nil =>
        obtain ⟨rfl, _⟩ := List.cons.inj hxs
        exact Or.inl hz
      | cons b before =>
        obtain ⟨rfl, rfl⟩ := List.cons.inj hxs
        obtain ⟨⟨y, hy⟩, hbefore⟩ := List.forall_mem_cons.mp hbefore
        refine Or.inr ⟨y, hy, ?_⟩
        rw [bind_eq_error_iff, ih]
        exact Or.inl ⟨before, z, after, rfl, hbefore, hz⟩

/-- The first failure, when what makes a member fail is known. -/
theorem mapM_eq_error_iff_findSome? {f : α → Except ε β} {failure? : α → Option ε} {xs : List α}
    {cause : ε} (h : ∀ x cause, f x = .error cause ↔ failure? x = some cause) :
    xs.mapM f = .error cause ↔ xs.findSome? failure? = some cause := by
  have hok : ∀ x, (∃ y, f x = .ok y) ↔ failure? x = none := by
    intro x
    simp only [Option.eq_none_iff_forall_ne_some, ne_eq, ← h]
    cases f x <;> simp
  rw [mapM_eq_error_iff, List.findSome?_eq_some_iff]
  refine exists_congr fun before => exists_congr fun x => exists_congr fun after => ?_
  simp only [hok, h, and_comm]

/-- When the members can fail in one way only, it does not matter which of them is the first. -/
theorem mapM_eq_error_iff_of_forall {f : α → Except ε β} {xs : List α} {cause only : ε}
    (h : ∀ x ∈ xs, ∀ other, f x = .error other → other = only) :
    xs.mapM f = .error cause ↔ ∃ x ∈ xs, f x = .error cause := by
  rw [mapM_eq_error_iff]
  constructor
  · rintro ⟨before, x, after, rfl, _, hx⟩
    exact ⟨x, List.mem_append_right before List.mem_cons_self, hx⟩
  · rintro ⟨x, hx, hcause⟩
    cases hall : xs.mapM f with
    | error other =>
      obtain ⟨before, y, after, rfl, hbefore, hy⟩ := mapM_eq_error_iff.mp hall
      have hother := h y (List.mem_append_right before List.mem_cons_self) other hy
      have honly := h x hx cause hcause
      exact ⟨before, y, after, rfl, hbefore, honly ▸ hother ▸ hy⟩
    | ok ys =>
      obtain ⟨i, hi, rfl⟩ := List.mem_iff_getElem.mp hx
      have hforall := mapM_eq_ok_iff_forall₂.mp hall
      have hok := hforall.get hi (hforall.length_eq ▸ hi)
      cases hcause.symm.trans hok

section Search
variable {f : α → Except ε (Option β)} {xs : List α} {b : β} {cause : ε}

/-- A search ends at the first member that gives a result. -/
theorem findSomeM?_eq_some_iff : xs.findSomeM? f = .ok (some b) ↔
    ∃ before x after, xs = before ++ x :: after ∧ (∀ a ∈ before, f a = .ok none) ∧
      f x = .ok (some b) := by
  induction xs with
  | nil => simp [pure, Except.pure]
  | cons x xs ih =>
    rw [List.findSomeM?_cons, bind_eq_ok_iff]
    constructor
    · rintro ⟨r, hx, h⟩
      cases r with
      | some c =>
        cases h
        exact ⟨[], x, xs, rfl, by simp, hx⟩
      | none =>
        obtain ⟨before, y, after, rfl, hbefore, hy⟩ := ih.mp h
        exact ⟨x :: before, y, after, rfl, List.forall_mem_cons.mpr ⟨hx, hbefore⟩, hy⟩
    · rintro ⟨before, y, after, hxs, hbefore, hy⟩
      cases before with
      | nil =>
        obtain ⟨rfl, _⟩ := List.cons.inj hxs
        exact ⟨some b, hy, rfl⟩
      | cons a before =>
        obtain ⟨rfl, rfl⟩ := List.cons.inj hxs
        obtain ⟨ha, hbefore⟩ := List.forall_mem_cons.mp hbefore
        exact ⟨none, ha, ih.mpr ⟨before, y, after, rfl, hbefore, hy⟩⟩

theorem findSomeM?_eq_none_iff : xs.findSomeM? f = .ok none ↔ ∀ x ∈ xs, f x = .ok none := by
  induction xs with
  | nil => simp [pure, Except.pure]
  | cons x xs ih =>
    rw [List.findSomeM?_cons, bind_eq_ok_iff, List.forall_mem_cons, ← ih]
    constructor
    · rintro ⟨r, hx, h⟩
      cases r with
      | some c => cases h
      | none => exact ⟨hx, h⟩
    · rintro ⟨hx, h⟩
      exact ⟨none, hx, h⟩

/-- A search fails at the first member that fails, if none before it gives a result. -/
theorem findSomeM?_eq_error_iff : xs.findSomeM? f = .error cause ↔
    ∃ before x after, xs = before ++ x :: after ∧ (∀ a ∈ before, f a = .ok none) ∧
      f x = .error cause := by
  induction xs with
  | nil => simp [pure, Except.pure]
  | cons x xs ih =>
    rw [List.findSomeM?_cons, bind_eq_error_iff]
    constructor
    · rintro (hx | ⟨r, hx, h⟩)
      · exact ⟨[], x, xs, rfl, by simp, hx⟩
      · cases r with
        | some c => cases h
        | none =>
          obtain ⟨before, y, after, rfl, hbefore, hy⟩ := ih.mp h
          exact ⟨x :: before, y, after, rfl, List.forall_mem_cons.mpr ⟨hx, hbefore⟩, hy⟩
    · rintro ⟨before, y, after, hxs, hbefore, hy⟩
      cases before with
      | nil =>
        obtain ⟨rfl, _⟩ := List.cons.inj hxs
        exact Or.inl hy
      | cons a before =>
        obtain ⟨rfl, rfl⟩ := List.cons.inj hxs
        obtain ⟨ha, hbefore⟩ := List.forall_mem_cons.mp hbefore
        exact Or.inr ⟨none, ha, ih.mpr ⟨before, y, after, rfl, hbefore, hy⟩⟩

end Search

/-- All failures of a step have a property. -/
def FailsIn (p : ε → Prop) (x : Except ε α) : Prop := ∀ e, x = .error e → p e

theorem failsIn_pure {p : ε → Prop} (a : α) : FailsIn p (pure a : Except ε α) := by
  intro e h
  cases h

theorem FailsIn.bind {p : ε → Prop} {x : Except ε α} {f : α → Except ε β} (hx : FailsIn p x)
    (hf : ∀ a, FailsIn p (f a)) : FailsIn p (x >>= f) := by
  intro e h
  rcases bind_eq_error_iff.mp h with h | ⟨a, _, h⟩
  · exact hx e h
  · exact hf a e h

theorem FailsIn.mapM {p : ε → Prop} {f : α → Except ε β} (hf : ∀ a, FailsIn p (f a))
    (xs : List α) : FailsIn p (xs.mapM f) := by
  intro e h
  obtain ⟨_, x, _, _, _, hx⟩ := mapM_eq_error_iff.mp h
  exact hf x e hx

end StructureDerive.Outcome
