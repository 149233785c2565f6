import StructureDerive.Generation.Derivation
import StructureDerive.Proofs.Deduplication
import StructureDerive.Proofs.Expansion

/-! # Derivations that succeed

What each stage has found when a target has a result: a stub for every obligation, with the entry of
its kind, and tests only from the plan of the target.
-/
namespace StructureDerive
open Outcome
variable {c : Catalog} {t : Target} {o : Obligation} {os : List Obligation}
variable {s : Stub} {ss : List Stub}

/-- What a stub implements. -/
def Stub.key (s : Stub) : String × List String := (s.kind, s.operators)

theorem Request.nodup_keys_of_expandAll [Host] {rs : List Request} {target : Option String}
    (h : expandAll c rs target = .ok os) : (os.map (·.key)).Nodup := by
  obtain ⟨_, _, rfl⟩ := expandAll_eq_ok_iff.mp h
  exact Obligation.nodup_keys_dedupe _

namespace Target

theorem stub_eq_ok_iff : t.stub c o = .ok s ↔ ∃ entry, c.find? o.kind = some entry ∧
    s = ⟨o.kind, entry.traitName, o.operators, t.mergeWhere o.clause⟩ := by
  rw [stub, bind_eq_ok_iff]
  simp only [Catalog.lookup_eq_ok_iff, pure, Except.pure, Except.ok.injEq, eq_comm (a := s)]

theorem stubs_eq_ok_iff : t.stubs c os = .ok ss ↔
    List.Forall₂ (fun o s => t.stub c o = .ok s) os ss := mapM_eq_ok_iff_forall₂

theorem exists_entry_of_stubs (h : t.stubs c os = .ok ss) (ho : o ∈ os) :
    ∃ e, c.find? o.kind = some e := by
  obtain ⟨hall, _⟩ := (mapM_eq_ok_iff ⟨o.kind, "", [], []⟩).mp h
  obtain ⟨s, hs⟩ := hall o ho
  obtain ⟨e, he, _⟩ := stub_eq_ok_iff.mp hs
  exact ⟨e, he⟩

theorem contains_of_stubs (h : t.stubs c os = .ok ss) : ∀ o ∈ os, c.contains o.kind := by
  intro o ho
  exact Option.isSome_iff_exists.mpr (exists_entry_of_stubs h ho)

theorem keys_of_stubs (h : t.stubs c os = .ok ss) : ss.map (·.key) = os.map (·.key) := by
  have hforall := stubs_eq_ok_iff.mp h
  clear h
  induction hforall with
  | nil => rfl
  | cons hs _ ih =>
    obtain ⟨entry, _, rfl⟩ := stub_eq_ok_iff.mp hs
    exact congrArg₂ List.cons rfl ih

/-- Stubs name their traits after their kinds. -/
theorem traits_of_stubs (h : t.stubs c os = .ok ss) :
    (ss.map fun s => (s.traitName, s.operators)) =
      (ss.map (·.key)).map fun key => ("Abstract" ++ key.1, key.2) := by
  have hforall := stubs_eq_ok_iff.mp h
  clear h
  induction hforall with
  | nil => rfl
  | cons hs _ ih =>
    obtain ⟨entry, hentry, rfl⟩ := stub_eq_ok_iff.mp hs
    refine congrArg₂ List.cons ?_ ih
    rw [Entry.traitName, (Catalog.mem_of_find? hentry).2]
    rfl

end Target

namespace Declaration
variable {d : Declaration} {options : Options} {withTests : Bool} {result : Derivation}

variable [Host]

/-- The stages that make the implementations. -/
def implStages (d : Declaration) (c : Catalog) :
    Except Failure (List Request × List Obligation × List Stub) := do
  let requests ← TraitEntry.requests c d.entries
  let obligations ← Request.expandAll c requests (some d.target.name)
  let stubs ← d.target.stubs c obligations
  return (requests, obligations, stubs)

/-- The last stage, which makes the tests. -/
def testStage (d : Declaration) (c : Catalog) (options : Options) (withTests : Bool)
    (os : List Obligation) : Except Failure (List LawTest) :=
  if withTests && d.tested then d.lawTests c options os else .ok []

theorem derive_eq_bind (d : Declaration) (c : Catalog) (options : Options) (withTests : Bool) :
    d.derive c options withTests = d.implStages c >>= fun impls =>
      (d.testStage c options withTests impls.2.1).map fun tests =>
        { target := d.target, requests := impls.1, obligations := impls.2.1,
          stubs := impls.2.2, tests, crate := options.crate } := by
  simp only [derive, implStages, testStage, bind_assoc]
  cases withTests && d.tested <;> rfl

theorem implStages_eq_ok_iff {requests : List Request} : d.implStages c = .ok (requests, os, ss) ↔
    TraitEntry.requests c d.entries = .ok requests ∧
    Request.expandAll c requests (some d.target.name) = .ok os ∧ d.target.stubs c os = .ok ss := by
  simp only [implStages, bind_eq_ok_iff, liftM_cause_eq_ok_iff, pure, Except.pure,
    Except.ok.injEq, Prod.mk.injEq]
  constructor
  · rintro ⟨_, hread, _, hexpand, _, hstubs, rfl, rfl, rfl⟩
    exact ⟨hread, hexpand, hstubs⟩
  · rintro ⟨hread, hexpand, hstubs⟩
    exact ⟨requests, hread, os, hexpand, ss, hstubs, rfl, rfl, rfl⟩

/-- A derivation succeeds when each of its stages does. -/
theorem derive_eq_ok_iff : d.derive c options withTests = .ok result ↔
    TraitEntry.requests c d.entries = .ok result.requests ∧
    Request.expandAll c result.requests (some d.target.name) = .ok result.obligations ∧
    d.target.stubs c result.obligations = .ok result.stubs ∧
    (if withTests && d.tested then d.lawTests c options result.obligations else .ok []) =
      .ok result.tests ∧
    result.target = d.target ∧ result.crate = options.crate := by
  simp only [derive_eq_bind, bind_eq_ok_iff, map_eq_ok_iff]
  constructor
  · rintro ⟨⟨requests, os, stubs⟩, himpls, tests, htests, rfl⟩
    obtain ⟨hread, hexpand, hstubs⟩ := implStages_eq_ok_iff.mp himpls
    exact ⟨hread, hexpand, hstubs, htests, rfl, rfl⟩
  · obtain ⟨target, requests, os, stubs, tests, crate⟩ := result
    rintro ⟨hread, hexpand, hstubs, htests, rfl, rfl⟩
    exact ⟨(requests, os, stubs), implStages_eq_ok_iff.mpr ⟨hread, hexpand, hstubs⟩, tests,
      htests, rfl⟩

theorem derive_eq_ok (h : d.derive c options withTests = .ok result) :
    TraitEntry.requests c d.entries = .ok result.requests ∧
    Request.expandAll c result.requests (some d.target.name) = .ok result.obligations ∧
    d.target.stubs c result.obligations = .ok result.stubs ∧
    (if withTests && d.tested then d.lawTests c options result.obligations else .ok []) =
      .ok result.tests := by
  obtain ⟨hread, hexpand, hstubs, htests, _⟩ := derive_eq_ok_iff.mp h
  exact ⟨hread, hexpand, hstubs, htests⟩

end Declaration
end StructureDerive
