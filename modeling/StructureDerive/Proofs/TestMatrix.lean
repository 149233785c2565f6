import Mathlib.Data.List.Nodup
import StructureDerive.Catalog.Standard
import StructureDerive.Host.Terminal
import StructureDerive.Proofs.StageFault
import StructureDerive.Proofs.StageSuccess

/-! # The matrix of law tests is complete

The tests of a target are written into one table of names, cell by cell. As long as no name is taken
twice, every cell of the matrix gets its test, in the order of the cells; the first cell whose name
is taken turns the whole matrix down, and the cause names the two cells that clash.
-/
namespace StructureDerive
open Outcome
variable {c : Catalog} {e : Entry} {o : Obligation} {os : List Obligation}

/-- A place in the matrix: a law that an obligation has to satisfy, under one row. -/
structure Cell where
  obligation : Obligation
  entry : Entry
  law : Law
  row : Option (List String)

namespace Cell

def types (x : Cell) : List String := x.row.getD []

def cellsOf (instantiations : List (List String)) (o : Obligation) (e : Entry) : List Cell :=
  e.laws.flatMap fun law => (TestPlan.rows instantiations).map fun row => ⟨o, e, law, row⟩

/-- All cells in lexicographic order of obligation, law and row. -/
def all (c : Catalog) (os : List Obligation) (instantiations : List (List String)) : List Cell :=
  os.flatMap fun o => (c.find? o.kind).elim [] (cellsOf instantiations o)

variable {x : Cell} {instantiations : List (List String)}

theorem mem_all_iff : x ∈ all c os instantiations ↔
    x.obligation ∈ os ∧ c.find? x.obligation.kind = some x.entry ∧ x.law ∈ x.entry.laws ∧
      x.row ∈ TestPlan.rows instantiations := by
  simp only [all, List.mem_flatMap]
  constructor
  · rintro ⟨o, ho, hx⟩
    cases he : c.find? o.kind with
    | none => simp [he] at hx
    | some e =>
      simp only [he, Option.elim_some, cellsOf, List.mem_flatMap, List.mem_map] at hx
      obtain ⟨law, hlaw, row, hrow, rfl⟩ := hx
      exact ⟨ho, he, hlaw, hrow⟩
  · rintro ⟨ho, he, hlaw, hrow⟩
    refine ⟨x.obligation, ho, ?_⟩
    simp only [he, Option.elim_some, cellsOf, List.mem_flatMap, List.mem_map]
    exact ⟨x.law, hlaw, x.row, hrow, rfl⟩

end Cell

namespace TestPlan
variable {p : TestPlan} {x y : Cell} {xs done : List Cell} {t : LawTest}
variable {tests out : List LawTest} {failure : Failure} {instantiations : List (List String)}

/-- The name that a cell asks for. -/
def nameAt (p : TestPlan) (x : Cell) : String :=
  p.target.testName (x.law.variant p.approx) x.types x.obligation.kind x.obligation.operators

/-- The test of a cell: as many arguments as its law takes, all of the type of its row, and a call
of the law through the trait of its obligation. -/
structure IsTestAt (p : TestPlan) (x : Cell) (t : LawTest) : Prop where
  name : t.name = p.nameAt x
  kind : t.kind = x.obligation.kind
  operators : t.operators = x.obligation.operators
  law : t.law = x.law.variant p.approx
  types : t.types = x.types
  guard : t.guard = p.policy.guardFor x.obligation x.entry
  calls : ∃ type, p.target.typeWith x.row = .ok type ∧
    t.parameters = List.replicate x.law.arity.toNat type ∧
    t.invocation = s!"<{type} as _alga::general::{x.entry.traitName}" ++
      s!"<{commaList x.obligation.operators}>>" ++ s!"::{x.law.variant p.approx}(args)"

/-- Why two cells of one name are turned down: for their rows if these differ, and otherwise for
the operators of their obligations. -/
inductive IsClash (p : TestPlan) (x y : Cell) : Cause → Prop where
  | rows : x.types ≠ y.types → IsClash p x y
      (.malformedInstantiation (.sameTestName x.types y.types p.target.name (p.nameAt y)))
  | operators : x.types = y.types → IsClash p x y
      (.declaration (.sameTestName x.obligation.label y.obligation.label p.target.name
        (p.nameAt y)))

/-- The names before a cell are all different, and one of them is the name of the cell. -/
def FirstClash (p : TestPlan) (xs : List Cell) (cause : Cause) : Prop :=
  ∃ before y after, xs = before ++ y :: after ∧ (before.map p.nameAt).Nodup ∧
    ∃ x ∈ before, p.nameAt x = p.nameAt y ∧ p.IsClash x y cause

section
variable [Host]

def addCell (p : TestPlan) (tests : List LawTest) (x : Cell) : Except Failure (List LawTest) :=
  p.addRow x.obligation x.entry x.law tests x.row

theorem addObligation_eq_foldlM (he : c.find? o.kind = some e) :
    p.addObligation c instantiations tests o =
      (Cell.cellsOf instantiations o e).foldlM p.addCell tests := by
  have hlookup : c.lookup o.kind = .ok e := Catalog.lookup_eq_ok_iff.mpr he
  rw [addObligation, hlookup, Cell.cellsOf, foldlM_flatMap]
  simp only [List.foldlM_map]
  rfl

/-- The loops over obligations, laws and rows are one loop over the cells. -/
theorem matrix_eq_foldlM (hkinds : ∀ o ∈ os, c.contains o.kind) :
    p.matrix c os instantiations = (Cell.all c os instantiations).foldlM p.addCell [] := by
  have hrun : ∀ tests, os.foldlM (p.addObligation c instantiations) tests =
      (Cell.all c os instantiations).foldlM p.addCell tests := by
    induction os with
    | nil => intro tests; rfl
    | cons o os ih =>
      intro tests
      obtain ⟨ho, hos⟩ := List.forall_mem_cons.mp hkinds
      obtain ⟨e, he⟩ := Option.isSome_iff_exists.mp ho
      have hcells : Cell.all c (o :: os) instantiations =
          Cell.cellsOf instantiations o e ++ Cell.all c os instantiations := by
        simp [Cell.all, he]
      rw [hcells, List.foldlM_cons, List.foldlM_append, addObligation_eq_foldlM he]
      exact congrArg _ (funext fun tests => ih hos tests)
  exact hrun []

end

theorem isTestAt_of_test (h : p.test x.obligation x.entry x.law x.row = .ok t) :
    p.IsTestAt x t := by
  rw [test, bind_eq_ok_iff] at h
  obtain ⟨type, htype, h⟩ := h
  cases h
  exact ⟨rfl, rfl, rfl, rfl, rfl, rfl, type, htype, rfl, by simp [String.append_assoc, toString]⟩

theorem isClash_collision {s : LawTest} (hx : p.IsTestAt x s) (hy : p.IsTestAt y t) :
    p.IsClash x y (p.collision s t) := by
  unfold collision
  rw [hx.types, hy.types]
  split
  · rename_i hdiffer
    rw [hy.name]
    exact .rows hdiffer
  · rename_i hsame
    simp only [hx.kind, hx.operators, hy.kind, hy.operators, hy.name]
    exact .operators (Decidable.not_not.mp hsame)

theorem add_eq_ok_iff :
    p.add tests t = .ok out ↔ t.name ∉ tests.map (·.name) ∧ out = tests ++ [t] := by
  unfold add
  cases hfind : tests.find? (·.name = t.name) with
  | none =>
    have hfree : t.name ∉ tests.map (·.name) := by
      intro hmem
      obtain ⟨s, hs, hname⟩ := List.mem_map.mp hmem
      exact List.find?_eq_none.mp hfind s hs (decide_eq_true hname)
    simp [hfree, eq_comm]
  | some s =>
    have htaken : t.name ∈ tests.map (·.name) := by
      have hname : s.name = t.name := by simpa using List.find?_some hfind
      exact hname ▸ List.mem_map_of_mem (List.mem_of_find?_eq_some hfind)
    simp [htaken]

theorem add_eq_error {cause : Cause} (h : p.add tests t = .error cause) :
    ∃ s ∈ tests, s.name = t.name ∧ cause = p.collision s t := by
  unfold add at h
  split at h
  · rename_i s hfind
    cases h
    have hname : s.name = t.name := by simpa using List.find?_some hfind
    exact ⟨s, List.mem_of_find?_eq_some hfind, hname, rfl⟩
  · cases h

theorem addCell_eq_ok_iff [Host] : p.addCell tests x = .ok out ↔
    ∃ t, p.test x.obligation x.entry x.law x.row = .ok t ∧ t.name ∉ tests.map (·.name) ∧
      out = tests ++ [t] := by
  simp only [addCell, addRow, bind_eq_ok_iff, liftM_fault_eq_ok_iff, liftM_cause_eq_ok_iff,
    add_eq_ok_iff]

theorem names_of_areTestsAt (h : List.Forall₂ p.IsTestAt xs tests) :
    tests.map (·.name) = xs.map p.nameAt := by
  induction h with
  | nil => rfl
  | cons hx _ ih => rw [List.map_cons, List.map_cons, hx.name, ih]

section
variable [Host]

/-- A step of the matrix adds the test of one cell and keeps the names apart. -/
theorem addCell_areTestsAt (hdone : List.Forall₂ p.IsTestAt done tests)
    (hnames : (done.map p.nameAt).Nodup) (h : p.addCell tests x = .ok out) :
    List.Forall₂ p.IsTestAt (done ++ [x]) out ∧ ((done ++ [x]).map p.nameAt).Nodup := by
  obtain ⟨t, ht, hfree, rfl⟩ := addCell_eq_ok_iff.mp h
  have hx : p.IsTestAt x t := isTestAt_of_test ht
  refine ⟨List.rel_append hdone (.cons hx .nil), ?_⟩
  rw [hx.name, names_of_areTestsAt hdone] at hfree
  rw [List.map_append, List.map_singleton, ← List.concat_eq_append]
  exact List.Nodup.concat hfree hnames

/-- A step of the matrix fails only for a cell whose name an earlier cell has. -/
theorem addCell_eq_error (hx : p.Fills x.row) (hdone : List.Forall₂ p.IsTestAt done tests)
    (h : p.addCell tests x = .error failure) :
    ∃ y ∈ done, p.nameAt y = p.nameAt x ∧
      ∃ cause, p.IsClash y x cause ∧ failure = .cause cause := by
  obtain ⟨t, ht⟩ := test_isOk x.obligation x.entry x.law hx
  have htest : p.IsTestAt x t := isTestAt_of_test ht
  have hadd : (liftM (p.add tests t) : Except Failure _) = .error failure := by
    rw [← h, addCell, addRow, ht]
    rfl
  obtain ⟨cause, hcause, rfl⟩ := mapError_eq_error_iff.mp hadd
  obtain ⟨s, hs, hname, rfl⟩ := add_eq_error hcause
  obtain ⟨y, hydone, hy⟩ := exists_of_mem_forall₂ hdone hs
  refine ⟨y, hydone, ?_, _, isClash_collision hy htest, ?_⟩
  · rw [← hy.name, hname, htest.name]
  · exact Failure.ofCause_of_isWritable (isWritable_of_add hcause)

theorem foldlM_addCell_areTestsAt (hdone : List.Forall₂ p.IsTestAt done tests)
    (hnames : (done.map p.nameAt).Nodup) (h : xs.foldlM p.addCell tests = .ok out) :
    List.Forall₂ p.IsTestAt (done ++ xs) out ∧ ((done ++ xs).map p.nameAt).Nodup := by
  induction xs generalizing done tests with
  | nil =>
    cases h
    rw [List.append_nil]
    exact ⟨hdone, hnames⟩
  | cons x xs ih =>
    obtain ⟨next, hnext, h⟩ := bind_eq_ok_iff.mp ((List.foldlM_cons ..).symm.trans h)
    obtain ⟨hdone, hnames⟩ := addCell_areTestsAt hdone hnames hnext
    have hrest := ih hdone hnames h
    rwa [List.append_assoc, List.singleton_append] at hrest

theorem foldlM_addCell_eq_error (hxs : ∀ x ∈ xs, p.Fills x.row)
    (hdone : List.Forall₂ p.IsTestAt done tests) (hnames : (done.map p.nameAt).Nodup)
    (h : xs.foldlM p.addCell tests = .error failure) :
    ∃ cause, p.FirstClash (done ++ xs) cause ∧ failure = .cause cause := by
  induction xs generalizing done tests with
  | nil => cases h
  | cons x xs ih =>
    obtain ⟨hx, hxs⟩ := List.forall_mem_cons.mp hxs
    rcases bind_eq_error_iff.mp ((List.foldlM_cons ..).symm.trans h) with h | ⟨next, hnext, h⟩
    · obtain ⟨y, hy, hname, cause, hclash, rfl⟩ := addCell_eq_error hx hdone h
      exact ⟨cause, ⟨done, x, xs, rfl, hnames, y, hy, hname, hclash⟩, rfl⟩
    · obtain ⟨hdone, hnames⟩ := addCell_areTestsAt hdone hnames hnext
      have hrest := ih hxs hdone hnames h
      rwa [List.append_assoc, List.singleton_append] at hrest

end

theorem FirstClash.not_nodup {cause : Cause} (h : p.FirstClash xs cause) :
    ¬ (xs.map p.nameAt).Nodup := by
  obtain ⟨before, y, after, rfl, _, x, hx, hname, _⟩ := h
  intro hnames
  rw [List.map_append, List.map_cons] at hnames
  have hmem : p.nameAt x ∈ before.map p.nameAt := List.mem_map_of_mem hx
  exact List.disjoint_of_nodup_append hnames hmem (hname ▸ List.mem_cons_self)

section
variable [Host]

theorem areTestsAt_of_matrix (hkinds : ∀ o ∈ os, c.contains o.kind)
    (h : p.matrix c os instantiations = .ok tests) :
    List.Forall₂ p.IsTestAt (Cell.all c os instantiations) tests ∧
      ((Cell.all c os instantiations).map p.nameAt).Nodup := by
  rw [matrix_eq_foldlM hkinds] at h
  exact foldlM_addCell_areTestsAt .nil List.nodup_nil h

theorem firstClash_of_matrix (hkinds : ∀ o ∈ os, c.contains o.kind)
    (hrows : ∀ types ∈ instantiations, p.target.generics.instantiable.length ≤ types.length)
    (h : p.matrix c os instantiations = .error failure) :
    ∃ cause, p.FirstClash (Cell.all c os instantiations) cause ∧ failure = .cause cause := by
  have hfills : ∀ x ∈ Cell.all c os instantiations, p.Fills x.row := by
    intro x hx
    obtain ⟨_, _, _, hrow⟩ := Cell.mem_all_iff.mp hx
    exact fills_of_mem_rows hrows hrow
  rw [matrix_eq_foldlM hkinds] at h
  exact foldlM_addCell_eq_error hfills .nil List.nodup_nil h

/-- The matrix has one test for every cell, in order, exactly when no two cells ask for one name.
Otherwise the first cell whose name is taken turns it down, with the cell that has the name. -/
theorem matrix_complete (p : TestPlan) (instantiations : List (List String))
    (hkinds : ∀ o ∈ os, c.contains o.kind)
    (hrows : ∀ types ∈ instantiations, p.target.generics.instantiable.length ≤ types.length) :
    ((∃ tests, p.matrix c os instantiations = .ok tests) ↔
      ((Cell.all c os instantiations).map p.nameAt).Nodup) ∧
    (∀ tests, p.matrix c os instantiations = .ok tests →
      List.Forall₂ p.IsTestAt (Cell.all c os instantiations) tests) ∧
    (¬ ((Cell.all c os instantiations).map p.nameAt).Nodup →
      ∃ cause, p.FirstClash (Cell.all c os instantiations) cause ∧
        p.matrix c os instantiations = .error (.cause cause)) := by
  cases h : p.matrix c os instantiations with
  | ok tests =>
    obtain ⟨htests, hnames⟩ := areTestsAt_of_matrix hkinds h
    refine ⟨iff_of_true ⟨tests, rfl⟩ hnames, ?_, fun hclash => absurd hnames hclash⟩
    rintro _ ⟨⟩
    exact htests
  | error failure =>
    obtain ⟨cause, hclash, rfl⟩ := firstClash_of_matrix hkinds hrows h
    refine ⟨iff_of_false ?_ hclash.not_nodup, ?_, fun _ => ⟨cause, hclash, rfl⟩⟩
    · rintro ⟨_, ⟨⟩⟩
    · rintro _ ⟨⟩

end

attribute [local instance] Host.terminal in
/-- Two rows that are told apart, and two that are not. -/
theorem matrix_of_monoid_rows :
    let p : TestPlan := { target := { name := "W", generics := ⟨[⟨.type, "T", none⟩]⟩ } }
    let os : List Obligation := [⟨"Monoid", ["Additive"], none, 0, none⟩,
      ⟨"Semigroup", ["Additive"], none, 0, none⟩]
    (∃ tests, p.matrix .standard os [["i32"], ["f64"]] = .ok tests ∧ tests.map (·.name) =
      ["prop_operating_identity_element_is_noop_for_W_i32_as_Monoid_Additive",
        "prop_operating_identity_element_is_noop_for_W_f64_as_Monoid_Additive",
        "prop_is_associative_for_W_i32_as_Semigroup_Additive",
        "prop_is_associative_for_W_f64_as_Semigroup_Additive"]) ∧
    ∃ cause, p.matrix .standard os [["Vec<i32>"], ["Vec_i32"]] = .error (.cause cause) := by
  intro p os
  have hkinds : ∀ o ∈ os, Catalog.standard.contains o.kind := by decide +kernel
  constructor
  · obtain ⟨hok, hall, _⟩ := matrix_complete p [["i32"], ["f64"]] hkinds (by decide)
    obtain ⟨tests, htests⟩ := hok.mpr (by decide +kernel)
    refine ⟨tests, htests, ?_⟩
    rw [names_of_areTestsAt (hall tests htests)]
    decide +kernel
  · obtain ⟨_, _, hclash⟩ := matrix_complete p [["Vec<i32>"], ["Vec_i32"]] hkinds (by decide)
    obtain ⟨cause, _, hcause⟩ := hclash (by decide +kernel)
    exact ⟨cause, hcause⟩

end TestPlan

namespace Declaration
variable {d : Declaration} {options : Options} {withTests : Bool} {result : Derivation}

variable [Host]

/-- The tests of a target come from the matrix of its plan and its instantiations. -/
theorem areTestsAt_of_derive (h : d.derive c options withTests = .ok result)
    (hwith : (withTests && d.tested) = true) :
    ∃ plan rows, d.testPlan options = .ok plan ∧ d.instantiationsFor = .ok rows ∧
      List.Forall₂ plan.IsTestAt (Cell.all c result.obligations rows) result.tests := by
  obtain ⟨_, _, hstubs, htests⟩ := derive_eq_ok h
  rw [if_pos hwith, lawTests, bind_eq_ok_iff] at htests
  obtain ⟨rows, hrows, htests⟩ := htests
  obtain ⟨plan, hplan, htests⟩ := bind_eq_ok_iff.mp htests
  have hall := (TestPlan.areTestsAt_of_matrix (Target.contains_of_stubs hstubs) htests).1
  exact ⟨plan, rows, hplan, liftM_cause_eq_ok_iff.mp hrows, hall⟩

theorem tests_of_derive_untested (h : d.derive c options withTests = .ok result)
    (hwithout : (withTests && d.tested) = false) : result.tests = [] := by
  obtain ⟨_, _, _, htests⟩ := derive_eq_ok h
  rw [hwithout, if_neg Bool.false_ne_true] at htests
  exact (Except.ok.inj htests).symm

theorem exists_cell_of_derive (h : d.derive c options withTests = .ok result) {t : LawTest}
    (ht : t ∈ result.tests) :
    ∃ plan rows x, d.testPlan options = .ok plan ∧ d.instantiationsFor = .ok rows ∧
      x ∈ Cell.all c result.obligations rows ∧ plan.IsTestAt x t := by
  cases hwith : withTests && d.tested with
  | false =>
    rw [tests_of_derive_untested h hwith] at ht
    cases ht
  | true =>
    obtain ⟨plan, rows, hplan, hrows, hall⟩ := areTestsAt_of_derive h hwith
    obtain ⟨x, hx, htest⟩ := exists_of_mem_forall₂ hall ht
    exact ⟨plan, rows, x, hplan, hrows, hx, htest⟩

end Declaration
end StructureDerive
