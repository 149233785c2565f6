import StructureDerive.Catalog.Consistency
import StructureDerive.Catalog.Standard
import StructureDerive.Host.Terminal
import StructureDerive.Proofs.Deduplication
import StructureDerive.Proofs.Expansion

/-! # Consistency is closedness of expansion

The check reads tables and the expansion reads requests. They are joined by one condition on the
entries, which the check decides and under which every implied obligation, asked for on its own,
implies nothing new. Two different operators are enough to read the condition off an expansion.
-/
namespace StructureDerive
open Request
variable {c : Catalog} {e d : Entry} {r q : Request} {o p : Obligation}

/-- All lists of an entry name known kinds of the right arity, with all that these hand down. -/
structure Entry.ClosedIn (c : Catalog) (e : Entry) : Prop where
  arity : e.arity = 1 ∨ e.arity = 2
  unary : e.arity = 1 → e.slot1 = [] ∧ e.joint = []
  slot0 : ∀ kind ∈ e.slot0, ∃ d, c.find? kind = some d ∧ d.arity = 1 ∧ d.slot0 ⊆ e.slot0
  slot1 : ∀ kind ∈ e.slot1, ∃ d, c.find? kind = some d ∧ d.arity = 1 ∧ d.slot0 ⊆ e.slot1
  joint : ∀ kind ∈ e.joint, ∃ d, c.find? kind = some d ∧ d.arity = 2 ∧
    d.joint ⊆ e.joint ∧ d.slot0 ⊆ e.slot0 ∧ d.slot1 ⊆ e.slot1

namespace Catalog

theorem closure_eq_nil_iff {kind dependency : String} {slot : Slot} {inherited own : List String} :
    closure kind slot dependency inherited own = [] ↔ inherited ⊆ own := by
  have hmissing : (inherited.filter (· ∉ own)).isEmpty ↔ inherited ⊆ own := by
    simp only [List.isEmpty_iff, List.filter_eq_nil_iff, decide_eq_true_eq, Decidable.not_not]
    exact Iff.rfl
  simp only [closure]
  split
  · rename_i h
    exact ⟨fun _ => hmissing.mp h, fun _ => rfl⟩
  · rename_i h
    exact ⟨fun hcons => absurd hcons (List.cons_ne_nil _ _), fun hsub => absurd (hmissing.mpr hsub) h⟩

theorem checkDependency_eq_nil_iff {slot : Slot} {close : Entry → String → List Inconsistency}
    {dependency : String} : c.checkDependency e slot close dependency = [] ↔
      ∃ d, c.find? dependency = some d ∧ d.arity = slot.dependencyArity ∧
        close d dependency = [] := by
  unfold checkDependency
  cases c.find? dependency with
  | none => simp
  | some d => by_cases hd : d.arity = slot.dependencyArity <;> simp [hd]

theorem checkSlot_eq_nil_iff {slot : Slot} : c.checkSlot e slot = [] ↔
    ∀ kind ∈ slot.list e, ∃ d, c.find? kind = some d ∧ d.arity = slot.dependencyArity ∧
      d.slot0 ⊆ slot.list e := by
  simp only [checkSlot, List.flatMap_eq_nil_iff, checkDependency_eq_nil_iff, closure_eq_nil_iff]

theorem checkJoint_eq_nil_iff : c.checkJoint e = [] ↔
    ∀ kind ∈ e.joint, ∃ d, c.find? kind = some d ∧ d.arity = 2 ∧
      d.joint ⊆ e.joint ∧ d.slot0 ⊆ e.slot0 ∧ d.slot1 ⊆ e.slot1 := by
  simp [checkJoint, List.flatMap_eq_nil_iff, checkDependency_eq_nil_iff, closure_eq_nil_iff,
    Slot.dependencyArity, Slot.list]

theorem checkEntry_eq_nil_iff : c.checkEntry e = [] ↔ e.ClosedIn c := by
  unfold checkEntry
  split
  · rename_i hrange
    simp only [List.cons_ne_nil, false_iff]
    intro h
    exact h.arity.elim hrange.1 hrange.2
  · rename_i hrange
    simp only [List.append_eq_nil_iff, checkSlot_eq_nil_iff, checkJoint_eq_nil_iff]
    constructor
    · rintro ⟨⟨⟨hunary, h0⟩, h1⟩, hj⟩
      refine ⟨by omega, ?_, h0, h1, hj⟩
      intro hone
      simpa [hone] using hunary
    · intro h
      refine ⟨⟨⟨?_, h.slot0⟩, h.slot1⟩, h.joint⟩
      rw [if_neg]
      rintro ⟨hone, hne⟩
      exact hne (by simp [h.unary hone])

theorem inconsistencies_eq_nil_iff :
    c.inconsistencies = [] ↔ ∀ e ∈ c.entries, e.ClosedIn c := by
  simp only [inconsistencies, List.flatMap_eq_nil_iff, checkEntry_eq_nil_iff]

end Catalog

namespace Obligation

/-- An obligation taken as a request of its own. -/
def request (o : Obligation) : Request :=
  { kind := o.kind, operators := o.operators, clause := o.clause, index := o.source }

@[simp] theorem request_kind (o : Obligation) : o.request.kind = o.kind := rfl

@[simp] theorem request_operators (o : Obligation) : o.request.operators = o.operators := rfl

/-- Each obligation of a list has an expansion of its own, which names no key outside the list. -/
def ClosedUnderExpansion [Host] (c : Catalog) (os : List Obligation) : Prop :=
  ∀ o ∈ os, ∃ own, expand c o.request = .ok own ∧ ∀ p ∈ own, p.key ∈ os.map (·.key)

end Obligation

theorem Entry.ClosedIn.weaker_of_unary (hd : d.ClosedIn c) (hone : d.arity = 1) {a : String}
    (hq : q.operators = [a]) : q.weaker d = d.slot0.map (q.obligation · [a]) := by
  obtain ⟨hslot1, hjoint⟩ := hd.unary hone
  simp [weaker, hslot1, hjoint, hq]

/-- A kind of one operator hands down only what its own first slot lists. -/
theorem Entry.ClosedIn.covers_unary [Host] (hd : d.ClosedIn c) (hone : d.arity = 1)
    (hfind : c.find? q.kind = some d) {a : String} (hq : q.operators = [a]) {os : List Obligation}
    {known : List String} (hself : q.kind ∈ known) (hsub : d.slot0 ⊆ known)
    (hknown : ∀ kind ∈ known, ∃ k ∈ os, k.key = (kind, [a])) :
    ∃ own, expand c q = .ok own ∧ ∀ p ∈ own, ∃ k ∈ os, k.Covers p := by
  have hlen : (q.operators.length : Int) = d.arity := by simp [hq, hone]
  refine ⟨_, expand_eq_ok_iff.mpr ⟨d, hfind, hlen, by omega, rfl⟩, ?_⟩
  rw [hd.weaker_of_unary hone hq, hq]
  intro p hp
  rcases List.mem_cons.mp hp with rfl | hp
  · obtain ⟨k, hk, hkey⟩ := hknown _ hself
    exact ⟨k, hk, hkey, fun _ => rfl⟩
  · obtain ⟨kind, hkind, rfl⟩ := List.mem_map.mp hp
    obtain ⟨k, hk, hkey⟩ := hknown kind (hsub hkind)
    exact ⟨k, hk, hkey, fun _ => rfl⟩

/-- Under the same operators, an entry that takes over the lists of another one implies as much. -/
theorem Request.covers_of_sublists (hops : q.operators = r.operators) (hjoint : d.joint ⊆ e.joint)
    (hslot0 : d.slot0 ⊆ e.slot0) (hslot1 : d.arity = 2 → e.arity = 2 ∧ d.slot1 ⊆ e.slot1)
    (hp : p ∈ q.weaker d) : ∃ k ∈ r.weaker e, k.Covers p := by
  rcases mem_weaker_iff.mp hp with ⟨k, hk, rfl⟩ | ⟨k, hk, rfl⟩ | ⟨htwo, k, hk, rfl⟩
  · exact ⟨_, joint_mem_weaker (hjoint hk), by simp [hops], fun _ => rfl⟩
  · exact ⟨_, slot0_mem_weaker (hslot0 hk), by simp [hops], fun _ => rfl⟩
  · obtain ⟨htwo, hsub⟩ := hslot1 htwo
    exact ⟨_, slot1_mem_weaker htwo (hsub hk), by simp [hops], by simp [hops]⟩

section
variable [Host]

/-- What an implied obligation implies in turn was implied by the request in the first place. -/
theorem Entry.ClosedIn.covers_weaker (he : e.ClosedIn c) (hc : ∀ d ∈ c.entries, d.ClosedIn c)
    (hlen : (r.operators.length : Int) = e.arity) (ho : o ∈ r.weaker e) (hkind : q.kind = o.kind)
    (hops : q.operators = o.operators) :
    ∃ own, expand c q = .ok own ∧ ∀ p ∈ own, ∃ k ∈ r.weaker e, k.Covers p := by
  rcases mem_weaker_iff.mp ho with ⟨kind, hmem, rfl⟩ | ⟨kind, hmem, rfl⟩ | ⟨htwo, kind, hmem, rfl⟩
  · obtain ⟨d, hfind, harity, hjoint, hslot0, hslot1⟩ := he.joint kind hmem
    have htwo : e.arity = 2 := by
      refine he.arity.resolve_left fun hone => ?_
      rw [(he.unary hone).2] at hmem
      cases hmem
    have hq : q.operators = r.operators := hops
    have hqlen : (q.operators.length : Int) = d.arity := by rw [hq, hlen, htwo, harity]
    refine ⟨_, expand_eq_ok_iff.mpr ⟨d, hkind ▸ hfind, hqlen, by omega, rfl⟩, ?_⟩
    intro p hp
    rcases List.mem_cons.mp hp with rfl | hp
    · exact ⟨_, ho, by simp [hkind, hq], fun _ => rfl⟩
    · exact covers_of_sublists hq hjoint hslot0 (fun _ => ⟨htwo, hslot1⟩) hp
  · obtain ⟨d, hfind, hone, hsub⟩ := he.slot0 kind hmem
    have hpos := he.arity
    obtain ⟨a, ha⟩ : ∃ a, r.operators[0]? = some a := ⟨_, List.getElem?_eq_getElem (by omega)⟩
    have hq : q.operators = [a] := by simpa [ha] using hops
    have hself : q.kind ∈ e.slot0 := by rwa [hkind]
    refine (hc d (Catalog.mem_of_find? hfind).1).covers_unary hone (hkind ▸ hfind) hq hself hsub ?_
    intro k hk
    exact ⟨_, slot0_mem_weaker hk, by simp [ha]⟩
  · obtain ⟨d, hfind, hone, hsub⟩ := he.slot1 kind hmem
    obtain ⟨b, hb⟩ : ∃ b, r.operators[1]? = some b := ⟨_, List.getElem?_eq_getElem (by omega)⟩
    have hq : q.operators = [b] := by simpa [hb] using hops
    have hself : q.kind ∈ e.slot1 := by rwa [hkind]
    refine (hc d (Catalog.mem_of_find? hfind).1).covers_unary hone (hkind ▸ hfind) hq hself hsub ?_
    intro k hk
    exact ⟨_, slot1_mem_weaker htwo hk, by simp [hb]⟩

/-- Each entry has one or two operators, only entries of two use the lists for two, and what an
expansion implies besides the requested kind is closed under expansion. -/
structure Catalog.ExpandsClosed (c : Catalog) (clause : Option String) (index : Int) : Prop where
  arity : ∀ e ∈ c.entries, e.arity = 1 ∨ e.arity = 2
  unary : ∀ e ∈ c.entries, e.arity = 1 → e.slot1 = [] ∧ e.joint = []
  closed : ∀ e ∈ c.entries, ∀ operators : List String, (operators.length : Int) = e.arity →
    operators.Nodup → ∃ first rest,
      expand c { kind := e.kind, operators, clause, index } = .ok (first :: rest) ∧
        Obligation.ClosedUnderExpansion c rest

theorem Obligation.ClosedUnderExpansion.inherits {os : List Obligation}
    (h : ClosedUnderExpansion c os) (ho : o ∈ os) : ∃ d, c.find? o.kind = some d ∧
      (o.operators.length : Int) = d.arity ∧ ∀ p ∈ o.request.weaker d, p.key ∈ os.map (·.key) := by
  obtain ⟨own, hown, hkeys⟩ := h o ho
  obtain ⟨d, hfind, hlen, _, rfl⟩ := expand_eq_ok_iff.mp hown
  exact ⟨d, hfind, hlen, fun p hp => hkeys p (List.mem_cons_of_mem _ hp)⟩

/-- A slot that closed expansions list under one operator takes over the first slots of its kinds. -/
theorem Obligation.ClosedUnderExpansion.slot {os : List Obligation}
    (h : ClosedUnderExpansion c os) {kind a : String} {companion : Option String}
    (ho : r.obligation kind [a] companion ∈ os) {own : List String}
    (hown : ∀ k, (k, [a]) ∈ os.map (·.key) → k ∈ own) :
    ∃ d, c.find? kind = some d ∧ d.arity = 1 ∧ d.slot0 ⊆ own := by
  obtain ⟨d, hfind, hlen, hkeys⟩ := h.inherits ho
  refine ⟨d, hfind, hlen.symm, fun k hk => hown k ?_⟩
  exact hkeys _ (slot0_mem_weaker hk)

theorem Catalog.ExpandsClosed.weaker {clause : Option String} {index : Int}
    (h : c.ExpandsClosed clause index) (hc : c.kinds.Nodup) (he : e ∈ c.entries)
    (operators : List String) (hlen : (operators.length : Int) = e.arity) (hne : operators.Nodup) :
    Obligation.ClosedUnderExpansion c
      (Request.weaker { kind := e.kind, operators, clause, index } e) := by
  obtain ⟨first, rest, hexpand, hrest⟩ := h.closed e he operators hlen hne
  obtain ⟨d, hfind, _, _, hobligations⟩ := expand_eq_ok_iff.mp hexpand
  cases (Catalog.find?_kind hc he).symm.trans hfind
  rw [List.cons.injEq] at hobligations
  exact hobligations.2 ▸ hrest

/-- Two different operators tell the lists of an entry apart, so that each is closed by itself. -/
theorem Catalog.ExpandsClosed.closedIn {clause : Option String} {index : Int}
    (h : c.ExpandsClosed clause index) (hc : c.kinds.Nodup) (he : e ∈ c.entries) :
    e.ClosedIn c := by
  rcases h.arity e he with hone | htwo
  · obtain ⟨hslot1, hjoint⟩ := h.unary e he hone
    have hw := h.weaker hc he ["x"] (by simp [hone]) (by simp)
    refine ⟨Or.inl hone, fun _ => ⟨hslot1, hjoint⟩, ?_, by simp [hslot1], by simp [hjoint]⟩
    intro kind hkind
    refine hw.slot (slot0_mem_weaker hkind) fun k hk => ?_
    simpa [key_mem_weaker_iff, hjoint, hslot1] using hk
  · have hw := h.weaker hc he ["x", "y"] (by simp [htwo]) (by simp)
    refine ⟨Or.inr htwo, by omega, ?_, ?_, ?_⟩
    · intro kind hkind
      refine hw.slot (slot0_mem_weaker hkind) fun k hk => ?_
      simpa [key_mem_weaker_iff] using hk
    · intro kind hkind
      refine hw.slot (slot1_mem_weaker htwo hkind) fun k hk => ?_
      simpa [key_mem_weaker_iff, htwo] using hk
    · intro kind hkind
      obtain ⟨d, hfind, hlen, hkeys⟩ := hw.inherits (joint_mem_weaker hkind)
      have hd : d.arity = 2 := hlen.symm
      refine ⟨d, hfind, hd, fun k hk => ?_, fun k hk => ?_, fun k hk => ?_⟩
      · have hkey := hkeys _ (joint_mem_weaker hk)
        simpa [key_mem_weaker_iff] using hkey
      · have hkey := hkeys _ (slot0_mem_weaker hk)
        simpa [key_mem_weaker_iff] using hkey
      · have hkey := hkeys _ (slot1_mem_weaker hd hk)
        simpa [key_mem_weaker_iff, htwo] using hkey

/-- A catalog without repeated kinds is consistent exactly when its expansions are closed. -/
theorem consistent_iff_expandsClosed (hc : c.kinds.Nodup) (clause : Option String) (index : Int) :
    c.inconsistencies = [] ↔ c.ExpandsClosed clause index := by
  rw [Catalog.inconsistencies_eq_nil_iff]
  constructor
  · intro hall
    refine ⟨fun e he => (hall e he).arity, fun e he => (hall e he).unary, ?_⟩
    intro e he operators hlen _
    have hpos := (hall e he).arity
    refine ⟨_, _, expand_eq_ok_iff.mpr ⟨e, Catalog.find?_kind hc he, hlen, by omega, rfl⟩, ?_⟩
    intro o ho
    obtain ⟨own, hown, hcovers⟩ := (hall e he).covers_weaker hall hlen ho o.request_kind
      o.request_operators
    refine ⟨own, hown, fun p hp => ?_⟩
    obtain ⟨k, hk, hkey, _⟩ := hcovers p hp
    exact hkey ▸ List.mem_map_of_mem hk
  · intro h e he
    exact h.closedIn hc he

end

attribute [local instance] Host.terminal

theorem standard_expandsClosed :
    Catalog.standard.kinds.Nodup ∧ Catalog.standard.inconsistencies = [] ∧
      Catalog.standard.ExpandsClosed none 0 :=
  ⟨by decide, by decide +kernel,
    (consistent_iff_expandsClosed (by decide) none 0).mp (by decide +kernel)⟩

end StructureDerive
