import StructureDerive.Host.Terminal
import StructureDerive.Proofs.DeclarationOrder
import StructureDerive.Proofs.EntryGrammar
import StructureDerive.Proofs.TestMatrix

/-! # Which guard a test carries

A guard is decided for an implementation as a whole, from the policy and from the requests of the
target. The companion that it needs is named by the first request that reaches the kind through its
second operator, even when an earlier request reached the kind without one.
-/
namespace StructureDerive
open Outcome
variable {c : Catalog} {e : Entry} {r : Request} {rs : List Request}
variable {o : Obligation} {os own : List Obligation} {kind op companion : String}
variable {ops : List String}

theorem Obligation.firstCompanion_flatMap {key : String × List String}
    (f : Request → List Obligation) :
    firstCompanion key (rs.flatMap f) = rs.findSome? fun r => firstCompanion key (f r) := by
  induction rs with
  | nil => rfl
  | cons r rs ih =>
    rw [List.flatMap_cons, firstCompanion_append, ih, List.findSome?_cons]
    cases firstCompanion key (f r) <;> rfl

namespace Request

/-- A request of two operators that implies a kind under its second one. -/
def ReachesSecond (c : Catalog) (r : Request) (kind op : String) : Prop :=
  ∃ e, c.find? r.kind = some e ∧ e.arity = 2 ∧ kind ∈ e.slot1 ∧ r.operators[1]? = some op

/-- The first operator of the first request that implies a kind under its second operator. -/
def IsCompanion (c : Catalog) (rs : List Request) (kind op companion : String) : Prop :=
  ∃ before r after, rs = before ++ r :: after ∧ (∀ q ∈ before, ¬ q.ReachesSecond c kind op) ∧
    r.ReachesSecond c kind op ∧ r.operators[0]? = some companion

section
variable [Host]

theorem firstCompanion_eq_some_iff (hown : expand c r = .ok own) :
    Obligation.firstCompanion (kind, ops) own = some companion ↔
      ∃ op, ops = [op] ∧ r.ReachesSecond c kind op ∧ r.operators[0]? = some companion := by
  constructor
  · intro h
    obtain ⟨o, ho, hkey, hcompanion⟩ := Obligation.exists_of_firstCompanion h
    obtain ⟨e, hfind, htwo, hkind, hops, hfirst⟩ := companion_of_expand hown ho hcompanion
    cases hkey
    obtain ⟨d, hd, hlen, _, _⟩ := expand_eq_ok_iff.mp hown
    cases hfind.symm.trans hd
    have hsecond : r.operators[1]? = some r.operators[1] := List.getElem?_eq_getElem (by omega)
    rw [hsecond] at hops
    exact ⟨_, hops.symm, ⟨e, hfind, htwo, hkind, hsecond⟩, hfirst⟩
  · rintro ⟨op, rfl, ⟨e, hfind, htwo, hkind, hsecond⟩, hfirst⟩
    obtain ⟨_, a, ha, h⟩ := firstCompanion_implied hown hfind htwo hkind
    rw [hsecond] at h
    rw [← hfirst, ha]
    exact h

theorem firstCompanion_eq_none_iff (hown : expand c r = .ok own) :
    Obligation.firstCompanion (kind, ops) own = none ↔
      ∀ op, ops = [op] → ¬ r.ReachesSecond c kind op := by
  rw [Option.eq_none_iff_forall_ne_some]
  constructor
  · rintro h op hops ⟨e, hfind, htwo, hreaches⟩
    obtain ⟨d, hd, hlen, _, _⟩ := expand_eq_ok_iff.mp hown
    cases hfind.symm.trans hd
    have hfirst : r.operators[0]? = some r.operators[0] := List.getElem?_eq_getElem (by omega)
    exact h _ ((firstCompanion_eq_some_iff hown).mpr ⟨op, hops, ⟨e, hfind, htwo, hreaches⟩, hfirst⟩)
  · intro h a ha
    obtain ⟨op, hops, hreaches, _⟩ := (firstCompanion_eq_some_iff hown).mp ha
    exact h op hops hreaches

theorem firstCompanion_flatMap_eq_some_iff (hrs : ∀ r ∈ rs, ∃ own, expand c r = .ok own) :
    Obligation.firstCompanion (kind, ops) (rs.flatMap (implied c)) = some companion ↔
      ∃ op, ops = [op] ∧ IsCompanion c rs kind op companion := by
  have hown : ∀ r ∈ rs, expand c r = .ok (implied c r) := by
    intro r hr
    obtain ⟨own, hown⟩ := hrs r hr
    rw [implied_of_expand hown, hown]
  rw [Obligation.firstCompanion_flatMap, List.findSome?_eq_some_iff]
  constructor
  · rintro ⟨before, r, after, rfl, hr, hbefore⟩
    obtain ⟨op, hops, hreaches, hfirst⟩ := (firstCompanion_eq_some_iff (hown r (by simp))).mp hr
    refine ⟨op, hops, before, r, after, rfl, fun q hq => ?_, hreaches, hfirst⟩
    have hq' := hown q (List.mem_append_left _ hq)
    exact (firstCompanion_eq_none_iff hq').mp (hbefore q hq) op hops
  · rintro ⟨op, rfl, before, r, after, rfl, hbefore, hreaches, hfirst⟩
    refine ⟨before, r, after, rfl, ?_, fun q hq => ?_⟩
    · exact (firstCompanion_eq_some_iff (hown r (by simp))).mpr ⟨op, rfl, hreaches, hfirst⟩
    · have hq' := hown q (List.mem_append_left _ hq)
      refine (firstCompanion_eq_none_iff hq').mpr fun op' hop' => ?_
      obtain ⟨rfl, _⟩ := List.cons.inj hop'
      exact hbefore q hq

end

theorem IsCompanion.mem_operators (h : IsCompanion c rs kind op companion) :
    ∃ r ∈ rs, companion ∈ r.operators := by
  obtain ⟨before, r, after, rfl, _, _, hfirst⟩ := h
  exact ⟨r, by simp, List.mem_of_getElem? hfirst⟩

end Request

theorem TraitEntry.empty_not_mem_operators {es : List TraitEntry} (h : requests c es = .ok rs)
    (hr : r ∈ rs) : "" ∉ r.operators := by
  obtain ⟨e, _, hoperators, heq⟩ := exists_entry_of_mem_requests h hr
  rw [heq]
  intro hempty
  exact Text.not_isIdentifierPath_nil
    (isIdentifierPath_of_mem_operatorTexts hoperators hempty)

theorem Guard.ofOperator?_eq_some_iff {operator : Option String} {a : String} :
    Guard.ofOperator? operator = some ⟨a⟩ ↔ operator = some a ∧ a ≠ "" := by
  rw [ofOperator?]
  constructor
  · intro h
    obtain ⟨b, hb, hguard⟩ := Option.map_eq_some_iff.mp h
    cases hguard
    obtain ⟨hsome, hne⟩ := Option.filter_eq_some_iff.mp hb
    exact ⟨hsome, of_decide_eq_true hne⟩
  · rintro ⟨rfl, hne⟩
    rw [Option.filter_some_pos (by simpa using hne), Option.map_some]

namespace GuardPolicy
variable {p : GuardPolicy}

/-- The guard of an implementation, as a policy and the requests of a target decide it. -/
structure Decides (p : GuardPolicy) (c : Catalog) (rs : List Request) (o : Obligation)
    (guard : Option Guard) : Prop where
  disabled : p.enabled = false → guard = none
  overridden : ∀ operator, p.enabled = true → p.override? o.label = some operator →
    ∀ a, guard = some ⟨a⟩ ↔ operator = some a ∧ a ≠ ""
  companion : p.enabled = true → p.override? o.label = none →
    ∀ a, guard = some ⟨a⟩ ↔ (∃ e, c.find? o.kind = some e ∧ e.guarded = true) ∧
      ∃ op, o.operators = [op] ∧ Request.IsCompanion c rs o.kind op a

theorem Decides.unique {g g' : Option Guard} (h : p.Decides c rs o g) (h' : p.Decides c rs o g') :
    g = g' := by
  by_cases hon : p.enabled = true
  · apply Option.ext
    intro a
    cases hlabel : p.override? o.label with
    | none => rw [h.companion hon hlabel, h'.companion hon hlabel]
    | some operator => rw [h.overridden operator hon hlabel, h'.overridden operator hon hlabel]
  · have hoff : p.enabled = false := by simpa using hon
    rw [h.disabled hoff, h'.disabled hoff]

theorem companionGuard_eq_some_iff [Host] {target : Option String} {a : String}
    (h : Request.expandAll c rs target = .ok os) (hrs : ∀ r ∈ rs, "" ∉ r.operators)
    (ho : o ∈ os) : companionGuard o e = some ⟨a⟩ ↔ e.guarded = true ∧
      ∃ op, o.operators = [op] ∧ Request.IsCompanion c rs o.kind op a := by
  obtain ⟨_, hown, rfl⟩ := Request.expandAll_eq_ok_iff.mp h
  have hcompanion : o.companion = some a ↔
      ∃ op, o.operators = [op] ∧ Request.IsCompanion c rs o.kind op a := by
    rw [Obligation.companion_of_mem_dedupe ho]
    exact Request.firstCompanion_flatMap_eq_some_iff hown
  -- The empty text would give no guard, but no request has an empty operator.
  have hne : o.companion = some a → a ≠ "" := by
    rintro hsome rfl
    obtain ⟨op, _, hcompanion⟩ := hcompanion.mp hsome
    obtain ⟨r, hr, hmem⟩ := hcompanion.mem_operators
    exact hrs r hr hmem
  rw [← hcompanion, companionGuard]
  by_cases hguarded : e.guarded = true
  · rw [if_pos hguarded, Guard.ofOperator?_eq_some_iff]
    exact ⟨fun hboth => ⟨hguarded, hboth.1⟩, fun hboth => ⟨hboth.2, hne hboth.2⟩⟩
  · simp [hguarded]

theorem guardFor_decides [Host] {target : Option String}
    (h : Request.expandAll c rs target = .ok os)
    (hrs : ∀ r ∈ rs, "" ∉ r.operators) (ho : o ∈ os) (he : c.find? o.kind = some e) :
    p.Decides c rs o (p.guardFor o e) := by
  refine ⟨fun hoff => ?_, fun operator hon hlabel a => ?_, fun hon hlabel a => ?_⟩
  · rw [guardFor, hoff]
    rfl
  · rw [guardFor, if_pos hon, hlabel]
    exact Guard.ofOperator?_eq_some_iff
  · rw [guardFor, if_pos hon, hlabel]
    simp only [companionGuard_eq_some_iff h hrs ho, he, Option.some.injEq, exists_eq_left']

end GuardPolicy

namespace TestPlan

/-- A test of an obligation, with the guard that the policy gives to this obligation. -/
def IsTestOf (p : TestPlan) (c : Catalog) (o : Obligation) (t : LawTest) : Prop :=
  t.kind = o.kind ∧ t.operators = o.operators ∧
    ∃ e, c.find? o.kind = some e ∧ t.guard = p.policy.guardFor o e

/-- The invariant of the matrix. -/
def AreTestsOf (p : TestPlan) (c : Catalog) (os : List Obligation) (tests : List LawTest) : Prop :=
  ∀ t ∈ tests, ∃ o ∈ os, p.IsTestOf c o t

end TestPlan

namespace Declaration
variable {d : Declaration} {options : Options} {withTests : Bool} {result : Derivation}
variable {plan : TestPlan}

theorem areTestsOf_of_derive [Host] (h : d.derive c options withTests = .ok result)
    (hplan : d.testPlan options = .ok plan) :
    plan.AreTestsOf c result.obligations result.tests := by
  intro t ht
  obtain ⟨plan', rows, x, hplan', _, hx, htest⟩ := exists_cell_of_derive h ht
  cases hplan.symm.trans hplan'
  obtain ⟨ho, he, _⟩ := Cell.mem_all_iff.mp hx
  exact ⟨x.obligation, ho, htest.kind, htest.operators, x.entry, he, htest.guard⟩

/-- The tests of an implementation share one guard, which the policy and the requests decide. -/
theorem guards_follow_policy [Host] (h : d.derive c options withTests = .ok result)
    (hplan : d.testPlan options = .ok plan) :
    TraitEntry.requests c d.entries = .ok result.requests ∧
    (∀ t ∈ result.tests, (t.kind, t.operators) ∈ result.obligations.map (·.key)) ∧
    ∀ o ∈ result.obligations, ∃ guard,
      (∀ g, plan.policy.Decides c result.requests o g ↔ g = guard) ∧
      ∀ t ∈ result.tests, (t.kind, t.operators) = o.key → t.guard = guard := by
  obtain ⟨hread, hexpand, hstubs, _⟩ := derive_eq_ok h
  have htests := areTestsOf_of_derive h hplan
  refine ⟨hread, fun t ht => ?_, fun o ho => ?_⟩
  · obtain ⟨o, ho, hkind, hops, _⟩ := htests t ht
    rw [hkind, hops]
    exact List.mem_map_of_mem ho
  · obtain ⟨e, he⟩ := Target.exists_entry_of_stubs hstubs ho
    have hempty : ∀ r ∈ result.requests, "" ∉ r.operators := fun r hr =>
      TraitEntry.empty_not_mem_operators hread hr
    have hdecides := GuardPolicy.guardFor_decides (p := plan.policy) hexpand hempty ho he
    refine ⟨plan.policy.guardFor o e, fun g => ⟨fun hg => hg.unique hdecides, ?_⟩, ?_⟩
    · rintro rfl
      exact hdecides
    · intro t ht hkey
      obtain ⟨o', ho', hkind, hops, e', he', hguard⟩ := htests t ht
      have hsame : o' = o := by
        refine List.inj_on_of_nodup_map (Request.nodup_keys_of_expandAll hexpand) ho' ho ?_
        rw [← hkey, hkind, hops]
        rfl
      rw [hsame] at he' hguard
      cases he.symm.trans he'
      exact hguard

attribute [local instance] Host.terminal

/-- The group reaches the quasigroup first, and without a companion. -/
theorem guard_of_group_before_field :
    let c := Catalog.standard
    let d : Declaration := { target := { name := "W" }, tested := true, entries := [
      ⟨"Group", .text "Multiplicative"⟩,
      ⟨"Field", .list [.text "Additive", .text "Multiplicative"]⟩] }
    ∃ result plan, d.derive c {} true = .ok result ∧ d.testPlan {} = .ok plan ∧
      ∃ o ∈ result.obligations, o.key = ("Quasigroup", ["Multiplicative"]) ∧
        plan.policy.Decides c result.requests o (some ⟨"Additive"⟩) := by
  intro c d
  have hany : ((d.derive c {} true).toOption.any fun result => result.tests.any fun t =>
      (t.kind, t.operators) = ("Quasigroup", ["Multiplicative"]) ∧
        t.guard = some ⟨"Additive"⟩) = true := by decide +kernel
  obtain ⟨result, hresult, htests⟩ := (Option.any_eq_true _ _).mp hany
  rw [toOption_eq_some_iff] at hresult
  obtain ⟨t, ht, htest⟩ := List.any_eq_true.mp htests
  obtain ⟨hkey, hguard⟩ := of_decide_eq_true htest
  have hplan : d.testPlan {} = .ok { target := d.target } := rfl
  obtain ⟨_, hmem, hdecides⟩ := guards_follow_policy hresult hplan
  obtain ⟨o, ho, hokey⟩ := List.mem_map.mp (hmem t ht)
  obtain ⟨guard, hunique, hall⟩ := hdecides o ho
  rw [← hall t ht hokey.symm, hguard] at hunique
  exact ⟨result, _, hresult, hplan, o, ho, hokey.trans hkey, (hunique _).mpr rfl⟩

end Declaration
end StructureDerive
