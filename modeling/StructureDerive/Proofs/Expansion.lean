import Mathlib.Data.List.Nodup
import StructureDerive.Proofs.Outcome
import StructureDerive.Request.Expansion

/-! # What a request implies

An expansion is the requested kind followed by all weaker ones. The closed forms below state it
without the checks on the way, for every catalog, consistent or not, so that no later proof has to
open the expansion itself.
-/
namespace StructureDerive
open Outcome
variable {c : Catalog} {r : Request} {e : Entry}

theorem Catalog.lookup_eq_ok_iff {kind : String} : c.lookup kind = .ok e ↔ c.find? kind = some e := by
  unfold Catalog.lookup
  cases c.find? kind <;> simp

theorem Catalog.lookup_eq_error_iff {kind : String} {cause : Cause} :
    c.lookup kind = .error cause ↔
      c.find? kind = none ∧ cause = .unknownKind kind (c.closest kind) := by
  unfold Catalog.lookup
  cases c.find? kind <;> simp [eq_comm]

theorem Catalog.mem_of_find? {kind : String} (h : c.find? kind = some e) :
    e ∈ c.entries ∧ e.kind = kind := by
  have hm := List.mem_of_find?_eq_some h
  have hk := List.find?_some h
  exact ⟨List.mem_reverse.mp hm, of_decide_eq_true hk⟩

/-- Without repeated kinds every entry is the one that a look-up of its kind finds. -/
theorem Catalog.find?_kind (hc : c.kinds.Nodup) (he : e ∈ c.entries) : c.find? e.kind = some e := by
  cases hf : c.find? e.kind with
  | none =>
    have h := List.find?_eq_none.mp hf e (List.mem_reverse.mpr he)
    simp at h
  | some d =>
    obtain ⟨hd, hk⟩ := Catalog.mem_of_find? hf
    rw [List.inj_on_of_nodup_map hc hd he hk]

/-- The implementations that a kind under given operators brings about, itself among them. -/
inductive Catalog.Implies (c : Catalog) (kind : String) (operators : List String) :
    String × List String → Prop where
  | whole {e : Entry} {implied : String} : c.find? kind = some e →
      implied = kind ∨ implied ∈ e.joint → Implies c kind operators (implied, operators)
  | first {e : Entry} {implied op : String} : c.find? kind = some e → implied ∈ e.slot0 →
      operators[0]? = some op → Implies c kind operators (implied, [op])
  | second {e : Entry} {implied op : String} : c.find? kind = some e → e.arity = 2 →
      implied ∈ e.slot1 → operators[1]? = some op → Implies c kind operators (implied, [op])

namespace Request

@[simp] theorem obligation_kind (r : Request) (kind : String) (ops : List String)
    (companion : Option String) : (r.obligation kind ops companion).kind = kind := rfl

@[simp] theorem obligation_operators (r : Request) (kind : String) (ops : List String)
    (companion : Option String) : (r.obligation kind ops companion).operators = ops := rfl

@[simp] theorem obligation_key (r : Request) (kind : String) (ops : List String)
    (companion : Option String) : (r.obligation kind ops companion).key = (kind, ops) := rfl

@[simp] theorem obligation_companion (r : Request) (kind : String) (ops : List String)
    (companion : Option String) : (r.obligation kind ops companion).companion = companion := rfl

/-- What a request for the kind of an entry implies besides that kind. -/
def weaker (r : Request) (e : Entry) : List Obligation :=
  e.joint.map (r.obligation · r.operators) ++
    e.slot0.map (r.obligation · r.operators[0]?.toList) ++
    (if e.arity = 2 then
      e.slot1.map fun kind => r.obligation kind r.operators[1]?.toList r.operators[0]?
    else [])

theorem mem_weaker_iff {o : Obligation} : o ∈ r.weaker e ↔
    (∃ kind ∈ e.joint, r.obligation kind r.operators = o) ∨
    (∃ kind ∈ e.slot0, r.obligation kind r.operators[0]?.toList = o) ∨
    (e.arity = 2 ∧
      ∃ kind ∈ e.slot1, r.obligation kind r.operators[1]?.toList r.operators[0]? = o) := by
  unfold weaker
  split <;> simp_all

theorem joint_mem_weaker {kind : String} (h : kind ∈ e.joint) :
    r.obligation kind r.operators ∈ r.weaker e :=
  mem_weaker_iff.mpr (Or.inl ⟨kind, h, rfl⟩)

theorem slot0_mem_weaker {kind : String} (h : kind ∈ e.slot0) :
    r.obligation kind r.operators[0]?.toList ∈ r.weaker e :=
  mem_weaker_iff.mpr (Or.inr (Or.inl ⟨kind, h, rfl⟩))

theorem slot1_mem_weaker (htwo : e.arity = 2) {kind : String} (h : kind ∈ e.slot1) :
    r.obligation kind r.operators[1]?.toList r.operators[0]? ∈ r.weaker e :=
  mem_weaker_iff.mpr (Or.inr (Or.inr ⟨htwo, kind, h, rfl⟩))

theorem key_mem_weaker_iff {kind : String} {ops : List String} :
    (kind, ops) ∈ (r.weaker e).map (·.key) ↔
      (kind ∈ e.joint ∧ r.operators = ops) ∨ (kind ∈ e.slot0 ∧ r.operators[0]?.toList = ops) ∨
      (e.arity = 2 ∧ kind ∈ e.slot1 ∧ r.operators[1]?.toList = ops) := by
  unfold weaker
  split <;> simp_all

theorem slotObligations_eq_ok_iff {kinds : List String} {op companion : Option String}
    {os : List Obligation} : r.slotObligations kinds op companion = .ok os ↔
      (op = none → kinds = []) ∧
        os = kinds.map fun kind => r.obligation kind op.toList companion := by
  cases kinds <;> cases op <;> simp [slotObligations, eq_comm]

variable [Host]

/-- An expansion succeeds when the kind is known and takes as many operators as are given. A kind
of no operators has no operator for the kinds of its first slot. -/
theorem expand_eq_ok_iff {os : List Obligation} : expand c r = .ok os ↔
    ∃ e, c.find? r.kind = some e ∧ (r.operators.length : Int) = e.arity ∧
      (e.arity = 0 → e.slot0 = []) ∧ os = r.obligation r.kind r.operators :: r.weaker e := by
  unfold expand
  simp only [bind_eq_ok_iff, liftM_cause_eq_ok_iff, Catalog.lookup_eq_ok_iff]
  refine exists_congr fun e => and_congr_right fun _ => ?_
  split
  · rename_i hne
    simp [throw_ne_ok, bind_eq_ok_iff, hne]
  · rename_i heq
    have hlen := Decidable.not_not.mp heq
    have hzero : r.operators[0]? = none ↔ e.arity = 0 := by
      rw [List.getElem?_eq_none_iff, ← hlen]
      omega
    simp only [bind_eq_ok_iff, liftM_fault_eq_ok_iff, slotObligations_eq_ok_iff]
    simp only [hzero, and_assoc, exists_eq_left, exists_and_left, hlen, true_and]
    refine and_congr_right fun _ => ?_
    simp only [weaker, List.map_cons, List.cons_append]
    split
    · rename_i htwo
      have hsecond : r.operators[1]? ≠ none := by
        rw [ne_eq, List.getElem?_eq_none_iff]
        omega
      simp only [bind_eq_ok_iff, liftM_fault_eq_ok_iff, slotObligations_eq_ok_iff]
      simp [hsecond, pure, Except.pure, eq_comm]
    · simp [bind, Except.bind, pure, Except.pure, eq_comm]

theorem mem_keys_of_expand {os : List Obligation} {key : String × List String}
    (h : expand c r = .ok os) : key ∈ os.map (·.key) ↔ c.Implies r.kind r.operators key := by
  obtain ⟨e, hfind, hlen, hzero, rfl⟩ := expand_eq_ok_iff.mp h
  obtain ⟨kind, ops⟩ := key
  rw [List.map_cons, List.mem_cons, key_mem_weaker_iff]
  constructor
  · rintro (heq | ⟨hkind, rfl⟩ | ⟨hkind, rfl⟩ | ⟨htwo, hkind, rfl⟩)
    · cases heq
      exact .whole hfind (Or.inl rfl)
    · exact .whole hfind (Or.inr hkind)
    · have hop : 0 < r.operators.length := by
        have hne : e.arity ≠ 0 := fun hnone => List.ne_nil_of_mem hkind (hzero hnone)
        omega
      rw [List.getElem?_eq_getElem hop]
      exact .first hfind hkind (List.getElem?_eq_getElem hop)
    · have hop : 1 < r.operators.length := by omega
      rw [List.getElem?_eq_getElem hop]
      exact .second hfind htwo hkind (List.getElem?_eq_getElem hop)
  · intro himplies
    cases himplies with
    | whole hd hkind =>
      cases hfind.symm.trans hd
      rcases hkind with rfl | hkind
      · exact Or.inl rfl
      · exact Or.inr (Or.inl ⟨hkind, rfl⟩)
    | first hd hkind hop =>
      cases hfind.symm.trans hd
      exact Or.inr (Or.inr (Or.inl ⟨hkind, by rw [hop]; rfl⟩))
    | second hd htwo hkind hop =>
      cases hfind.symm.trans hd
      exact Or.inr (Or.inr (Or.inr ⟨htwo, hkind, by rw [hop]; rfl⟩))

/-- All obligations of a request have its clause and its rank. -/
theorem origin_of_expand {os : List Obligation} {o : Obligation} (h : expand c r = .ok os)
    (ho : o ∈ os) : o.clause = r.clause ∧ o.source = r.index := by
  obtain ⟨e, _, _, _, rfl⟩ := expand_eq_ok_iff.mp h
  rcases List.mem_cons.mp ho with rfl | ho
  · exact ⟨rfl, rfl⟩
  · rcases mem_weaker_iff.mp ho with ⟨_, _, rfl⟩ | ⟨_, _, rfl⟩ | ⟨_, _, _, rfl⟩ <;>
      exact ⟨rfl, rfl⟩

/-- The obligations of a request, none if it has no expansion. -/
def implied (c : Catalog) (r : Request) : List Obligation := (expand c r).toOption.getD []

theorem implied_of_expand {os : List Obligation} (h : expand c r = .ok os) : implied c r = os := by
  simp [implied, h, Except.toOption]

theorem expandEach_eq_ok_iff {rs : List Request} {os : List Obligation} :
    expandEach c rs = .ok os ↔
      (∀ r ∈ rs, ∃ own, expand c r = .ok own) ∧ os = rs.flatMap (implied c) := by
  unfold expandEach
  simp only [bind_eq_ok_iff, mapM_eq_ok_iff [], pure, Except.pure, Except.ok.injEq]
  constructor
  · rintro ⟨_, ⟨hall, rfl⟩, rfl⟩
    exact ⟨hall, rfl⟩
  · rintro ⟨hall, rfl⟩
    exact ⟨_, ⟨hall, rfl⟩, rfl⟩

/-- A target has obligations when it has requests and each of them has an expansion. -/
theorem expandAll_eq_ok_iff {rs : List Request} {target : Option String} {os : List Obligation} :
    expandAll c rs target = .ok os ↔ rs ≠ [] ∧ (∀ r ∈ rs, ∃ own, expand c r = .ok own) ∧
      os = Obligation.dedupe (rs.flatMap (implied c)) := by
  unfold expandAll
  split
  · rename_i hnil
    simp [throw_ne_ok, List.isEmpty_iff.mp hnil]
  · rename_i hne
    simp only [bind_eq_ok_iff, expandEach_eq_ok_iff, pure, Except.pure, Except.ok.injEq]
    constructor
    · rintro ⟨_, ⟨hall, rfl⟩, rfl⟩
      exact ⟨by simpa using hne, hall, rfl⟩
    · rintro ⟨_, hall, rfl⟩
      exact ⟨_, ⟨hall, rfl⟩, rfl⟩

end Request
end StructureDerive
