import StructureDerive.Host.Terminal
import StructureDerive.Proofs.StageFault

/-! # Isolation within a batch

A batch is what its declarations give one by one, put one after the other. So no declaration changes
what becomes of another one, as long as none of them meets a fault.
-/
namespace StructureDerive
open Outcome
variable {c : Catalog} {options : Options} {withTests : Bool} {d : Declaration} {fault : Fault}

namespace Batch
variable {b single : Batch}

/-- All results and all diagnostics of some batches, in order. -/
def concat (batches : List Batch) : Batch where
  results := batches.flatMap (·.results)
  diagnostics := batches.flatMap (·.diagnostics)

/-- What is added to a batch does not depend on what it holds. -/
theorem add_eq_map (b : Batch) (target : String) (outcome : Except Failure Derivation) :
    b.add target outcome =
      (({} : Batch).add target outcome).map fun single => concat [b, single] := by
  match outcome with
  | .ok result => simp [add, concat, Except.map]
  | .error (.cause cause) => simp [add, concat, Except.map]
  | .error (.fault fault) => rfl

theorem concat_concat_cons (b single : Batch) (singles : List Batch) :
    concat (concat [b, single] :: singles) = concat (b :: single :: singles) := by
  simp [concat]

theorem concat_pair_concat (single : Batch) (singles : List Batch) :
    concat [single, concat singles] = concat (single :: singles) := by
  simp [concat]

theorem results_concat_pair (b single : Batch) :
    (concat [b, single]).results = b.results ++ single.results := by simp [concat]

theorem diagnostics_concat_pair (b single : Batch) :
    (concat [b, single]).diagnostics = b.diagnostics ++ single.diagnostics := by simp [concat]

section
variable [Host]

theorem derive_singleton (d : Declaration) : derive [d] c options withTests =
    ({} : Batch).add d.target.name (d.derive c options withTests) := by
  simp [derive]

/-- From a batch on, each declaration adds what it gives by itself. -/
theorem foldlM_add (ds : List Declaration) (b : Batch) :
    ds.foldlM (fun b d => b.add d.target.name (d.derive c options withTests)) b =
      (ds.mapM fun d => derive [d] c options withTests).map
        fun singles => concat (b :: singles) := by
  induction ds generalizing b with
  | nil => simp [concat, Except.map, pure, Except.pure]
  | cons d ds ih =>
    rw [List.foldlM_cons, List.mapM_cons, derive_singleton, add_eq_map]
    cases ({} : Batch).add d.target.name (d.derive c options withTests) with
    | error fault => rfl
    | ok single =>
      change ds.foldlM _ (concat [b, single]) = _
      rw [ih]
      cases ds.mapM fun d => derive [d] c options withTests with
      | error fault => rfl
      | ok singles => exact congrArg Except.ok (concat_concat_cons b single singles)

/-- A batch is made of the batches of its declarations alone. -/
theorem derive_eq_map_concat (ds : List Declaration) : derive ds c options withTests =
    (ds.mapM fun d => derive [d] c options withTests).map concat := by
  rw [derive, foldlM_add]
  rfl

theorem derive_cons_eq_ok_iff {ds : List Declaration} {batch : Batch} :
    derive (d :: ds) c options withTests = .ok batch ↔ ∃ single rest,
      derive [d] c options withTests = .ok single ∧ derive ds c options withTests = .ok rest ∧
        batch = concat [single, rest] := by
  rw [derive_eq_map_concat (d :: ds), derive_eq_map_concat ds, List.mapM_cons]
  simp only [map_eq_ok_iff, bind_eq_ok_iff, pure, Except.pure, Except.ok.injEq]
  constructor
  · rintro ⟨_, ⟨single, hsingle, singles, hsingles, rfl⟩, rfl⟩
    exact ⟨single, _, hsingle, ⟨singles, hsingles, rfl⟩, (concat_pair_concat single singles).symm⟩
  · rintro ⟨single, _, hsingle, ⟨singles, hsingles, rfl⟩, rfl⟩
    exact ⟨_, ⟨single, hsingle, singles, hsingles, rfl⟩, (concat_pair_concat single singles).symm⟩

/-- A declaration alone gives one result or one diagnostic. -/
theorem derive_singleton_eq_ok_iff : derive [d] c options withTests = .ok single ↔
    (∃ result, d.derive c options withTests = .ok result ∧ single = { results := [result] }) ∨
    (∃ cause, d.derive c options withTests = .error (.cause cause) ∧
      single = { diagnostics := [⟨d.target.name, cause⟩] }) := by
  rw [derive_singleton]
  match d.derive c options withTests with
  | .ok result => simp [add, eq_comm]
  | .error (.cause cause) => simp [add, eq_comm]
  | .error (.fault fault) => simp [add]

theorem derive_singleton_eq_error_iff : derive [d] c options withTests = .error fault ↔
    d.derive c options withTests = .error (.fault fault) := by
  rw [derive_singleton]
  match d.derive c options withTests with
  | .ok result => simp [add]
  | .error (.cause cause) => simp [add]
  | .error (.fault fault) => simp [add]

theorem length_of_derive_singleton (h : derive [d] c options withTests = .ok single) :
    single.results.length + single.diagnostics.length = 1 := by
  rcases derive_singleton_eq_ok_iff.mp h with ⟨_, _, rfl⟩ | ⟨_, _, rfl⟩ <;> rfl

/-- If all values can be written, each declaration gives its own item. -/
theorem exists_derive_singleton (hc : c.IsWritable) (hd : d.IsWritable) :
    ∃ single, derive [d] c options withTests = .ok single := by
  cases h : derive [d] c options withTests with
  | ok single => exact ⟨single, rfl⟩
  | error fault =>
    have hfaults : FaultsIn (fun _ => False) (d.derive c options withTests) :=
      Declaration.derive_faultsIn (Or.inl ⟨hc, hd⟩)
    exact (hfaults fault (derive_singleton_eq_error_iff.mp h)).elim

theorem exists_singles (options : Options) (withTests : Bool) {ds : List Declaration}
    (hc : c.IsWritable) (hds : ∀ d ∈ ds, d.IsWritable) :
    ∃ singles, (ds.mapM fun d => derive [d] c options withTests) = .ok singles :=
  ⟨_, (mapM_eq_ok_iff {}).mpr ⟨fun d hd => exists_derive_singleton hc (hds d hd), rfl⟩⟩

/-- Derivations end with a cause or with a result, unless a value cannot be written. Then each
declaration has one item in the batch, which is the one that it has alone. -/
theorem derive_isolates (ds : List Declaration) (c : Catalog) (options : Options)
    (withTests : Bool) :
    (∀ d ∈ ds, ∀ fault, d.derive c options withTests = .error (.fault fault) →
      fault.IsOfWriting ∧ ¬ (c.IsWritable ∧ d.IsWritable)) ∧
    (∀ d ∈ ds, ∀ rows, d.instantiationsFor = .ok rows → ∀ row ∈ rows,
      row.length = d.target.generics.instantiable.length ∧
        ∃ type, d.target.typeWith (some row) = .ok type) ∧
    derive ds c options withTests =
      (ds.mapM fun d => derive [d] c options withTests).map concat ∧
    (∀ d ∈ ds, ∀ single, derive [d] c options withTests = .ok single →
      single.results.length + single.diagnostics.length = 1) ∧
    (c.IsWritable → (∀ d ∈ ds, d.IsWritable) → ∃ singles,
      (ds.mapM fun d => derive [d] c options withTests) = .ok singles ∧
        derive ds c options withTests = .ok (concat singles)) := by
  refine ⟨?_, ?_, derive_eq_map_concat ds, fun d _ single => length_of_derive_singleton, ?_⟩
  · intro d _
    refine Declaration.derive_faultsIn ?_
    exact (Classical.em (c.IsWritable ∧ d.IsWritable)).imp_right fun h fault hfault => ⟨hfault, h⟩
  · intro d _ rows hrows row hrow
    have hlength := Declaration.length_of_mem_instantiationsFor hrows hrow
    exact ⟨hlength, Target.typeWith_isOk_iff.mpr hlength.ge⟩
  · intro hc hds
    obtain ⟨singles, hsingles⟩ := exists_singles options withTests hc hds
    exact ⟨singles, hsingles, by rw [derive_eq_map_concat, hsingles]; rfl⟩

end

attribute [local instance] Host.terminal

/-- A target with a group. -/
def additiveGroup : Declaration where
  target := { name := "W" }
  entries := [⟨"Group", .text "Additive"⟩]

/-- A target with a group that has an integer in place of an operator. -/
def integerGroup (n : Int) : Declaration where
  target := { name := "Broken" }
  entries := [⟨"Group", .list [.int n]⟩]

theorem isWritable_of_small_integer : ∀ d ∈ [additiveGroup, integerGroup 3], d.IsWritable := by
  rw [List.forall_mem_cons, List.forall_mem_singleton]
  refine ⟨⟨?_, ?_, ?_, ?_⟩, ⟨?_, ?_, ?_, ?_⟩⟩ <;> decide +kernel

theorem derive_beside_small_integer :
    Catalog.standard.IsWritable ∧ (∀ d ∈ [additiveGroup, integerGroup 3], d.IsWritable) ∧
      ∃ singles, ([additiveGroup, integerGroup 3].mapM fun d =>
          derive [d] Catalog.standard {} true) = .ok singles ∧
        derive [additiveGroup, integerGroup 3] Catalog.standard {} true = .ok (concat singles) := by
  have hc : Catalog.standard.IsWritable := by decide +kernel
  obtain ⟨_, _, _, _, hreturns⟩ :=
    derive_isolates [additiveGroup, integerGroup 3] Catalog.standard {} true
  exact ⟨hc, isWritable_of_small_integer, hreturns hc isWritable_of_small_integer⟩

theorem derive_additiveGroup : ∃ result,
    derive [additiveGroup] Catalog.standard {} true = .ok { results := [result] } := by
  have hcount : (derive [additiveGroup] Catalog.standard {} true).map (·.results.length) =
      .ok 1 := by decide +kernel
  obtain ⟨single, hsingle, hlength⟩ := map_eq_ok_iff.mp hcount
  rcases derive_singleton_eq_ok_iff.mp hsingle with ⟨result, _, rfl⟩ | ⟨_, _, rfl⟩
  · exact ⟨result, hsingle⟩
  · cases hlength

/-- An integer of more than 4300 digits cannot be written into the message about it. -/
theorem derive_unwritable : (integerGroup Numeral.unwritable).derive Catalog.standard {} true =
    .error (.fault .tooManyDigits) := by
  have hcause := TraitEntry.requests_integer Numeral.unwritable
  exact bind_eq_error_iff.mpr (Or.inl (liftM_cause_eq_fault_iff.mpr
    ⟨_, hcause, Scalar.obstacle?_unwritable⟩))

/-- The fault of one declaration ends the batch, and the other one has no item. -/
theorem derive_beside_long_integer :
    (∃ result, derive [additiveGroup] Catalog.standard {} true = .ok { results := [result] }) ∧
    (integerGroup Numeral.unwritable).derive Catalog.standard {} true =
      .error (.fault .tooManyDigits) ∧
    derive [additiveGroup, integerGroup Numeral.unwritable] Catalog.standard {} true =
      .error .tooManyDigits := by
  refine ⟨derive_additiveGroup, derive_unwritable, ?_⟩
  obtain ⟨result, hresult⟩ := derive_additiveGroup
  rw [derive_eq_map_concat, map_eq_error_iff, mapM_eq_error_iff]
  refine ⟨[additiveGroup], integerGroup Numeral.unwritable, [], rfl, ?_, ?_⟩
  · simpa using ⟨_, hresult⟩
  · exact derive_singleton_eq_error_iff.mpr derive_unwritable

end Batch
end StructureDerive
