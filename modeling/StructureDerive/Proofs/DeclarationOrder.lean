import StructureDerive.Catalog.Standard
import StructureDerive.Host.Terminal
import StructureDerive.LawTest.Guard
import StructureDerive.Proofs.Deduplication
import StructureDerive.Proofs.Expansion

/-! # The order of declarations

Reordering requests never changes which obligations there are. It changes companions, and with them
identity guards, exactly when two requests imply one kind under the same second operator but under
different first operators: then whichever of the two is declared first names the companion.
-/
namespace StructureDerive
open Request
variable {c : Catalog} {e : Entry} {r s : Request} {rs rs' : List Request}
variable {o p : Obligation} {os os' : List Obligation} {key : String × List String}

namespace Obligation

/-- All known companions of one key are the same. -/
def CompanionsAgree (os : List Obligation) : Prop :=
  ∀ o ∈ os, ∀ p ∈ os, o.key = p.key → ∀ a b, o.companion = some a → p.companion = some b → a = b

/-- Two lists give each key that they share the same companion. -/
def SameCompanions (os os' : List Obligation) : Prop :=
  ∀ o ∈ os, ∀ p ∈ os', o.key = p.key → o.companion = p.companion

/-- Two lists give each key that they share the same guard, whatever the policy is. -/
def SameGuards (os os' : List Obligation) : Prop :=
  ∀ o ∈ os, ∀ p ∈ os', o.key = p.key → ∀ (policy : GuardPolicy) (entry : Entry),
    policy.guardFor o entry = policy.guardFor p entry

theorem firstCompanion_append : firstCompanion key (os ++ os') =
    (firstCompanion key os <|> firstCompanion key os') := by
  simp only [firstCompanion, List.filter_append, List.findSome?_append, Option.orElse_eq_orElse,
    Option.orElse_eq_or]

theorem exists_of_firstCompanion {a : String} (h : firstCompanion key os = some a) :
    ∃ o ∈ os, o.key = key ∧ o.companion = some a := by
  obtain ⟨o, ho, hcompanion⟩ := List.exists_of_findSome?_eq_some h
  rw [List.mem_filter, decide_eq_true_eq] at ho
  exact ⟨o, ho.1, ho.2, hcompanion⟩

/-- A list whose companions agree has the same first companions in every order. -/
theorem CompanionsAgree.firstCompanion_perm (h : CompanionsAgree os) (hp : os'.Perm os) :
    firstCompanion key os' = firstCompanion key os := by
  cases hnew : firstCompanion key os' with
  | none =>
    rw [firstCompanion_eq_none_iff] at hnew
    exact (firstCompanion_eq_none_iff.mpr fun o ho => hnew o (hp.mem_iff.mpr ho)).symm
  | some a =>
    obtain ⟨o, ho, hokey, hoa⟩ := exists_of_firstCompanion hnew
    have ho := hp.mem_iff.mp ho
    cases hold : firstCompanion key os with
    | none =>
      rw [firstCompanion_eq_none_iff.mp hold o ho hokey] at hoa
      cases hoa
    | some b =>
      obtain ⟨p, hp, hpkey, hpb⟩ := exists_of_firstCompanion hold
      rw [h o ho p hp (hokey.trans hpkey.symm) a b hoa hpb]

theorem CompanionsAgree.sameCompanions (h : CompanionsAgree os) (hp : os'.Perm os) :
    SameCompanions (dedupe os) (dedupe os') := by
  intro o ho p hp' hkey
  rw [companion_of_mem_dedupe ho, companion_of_mem_dedupe hp', hkey, h.firstCompanion_perm hp]

/-- A policy sees an obligation only through its label and its companion. -/
theorem SameCompanions.sameGuards (h : SameCompanions os os') : SameGuards os os' := by
  intro o ho p hp hkey policy entry
  obtain ⟨hkind, hops⟩ := Prod.mk.inj hkey
  simp only [GuardPolicy.guardFor, GuardPolicy.companionGuard, label, hkind, hops, h o ho p hp hkey]

theorem perm_keys_dedupe (hp : os'.Perm os) :
    ((dedupe os').map (·.key)).Perm ((dedupe os).map (·.key)) := by
  rw [List.perm_ext_iff_of_nodup (nodup_keys_dedupe os') (nodup_keys_dedupe os)]
  intro key
  rw [mem_keys_dedupe, mem_keys_dedupe, (hp.map _).mem_iff]

end Obligation

namespace Request

/-- Requests of two operators that imply one kind under the same second operator have the same
first operator. -/
def CompanionsAgree (c : Catalog) (rs : List Request) : Prop :=
  ∀ r ∈ rs, ∀ s ∈ rs, ∀ d e, c.find? r.kind = some d → c.find? s.kind = some e →
    d.arity = 2 → e.arity = 2 → ∀ kind ∈ d.slot1, kind ∈ e.slot1 →
      r.operators[1]? = s.operators[1]? → r.operators[0]? = s.operators[0]?

section
variable [Host]

/-- A companion is the first operator of a request that reaches a kind through its second one. -/
theorem companion_of_expand (h : expand c r = .ok os) (ho : o ∈ os) {a : String}
    (ha : o.companion = some a) : ∃ e, c.find? r.kind = some e ∧ e.arity = 2 ∧ o.kind ∈ e.slot1 ∧
      r.operators[1]?.toList = o.operators ∧ r.operators[0]? = some a := by
  obtain ⟨e, hfind, hlen, _, rfl⟩ := expand_eq_ok_iff.mp h
  rcases List.mem_cons.mp ho with rfl | ho
  · cases ha
  · rcases mem_weaker_iff.mp ho with ⟨kind, _, rfl⟩ | ⟨kind, _, rfl⟩ | ⟨htwo, kind, hkind, rfl⟩
    · cases ha
    · cases ha
    · exact ⟨e, hfind, htwo, hkind, rfl, ha⟩

/-- A request names one companion for all kinds under its second operator. -/
theorem firstCompanion_implied (h : expand c r = .ok os) (hfind : c.find? r.kind = some e)
    (htwo : e.arity = 2) {kind : String} (hkind : kind ∈ e.slot1) :
    (kind, r.operators[1]?.toList) ∈ os.map (·.key) ∧ ∃ a, r.operators[0]? = some a ∧
      Obligation.firstCompanion (kind, r.operators[1]?.toList) os = some a := by
  obtain ⟨d, hd, hlen, _, hos⟩ := expand_eq_ok_iff.mp h
  cases hfind.symm.trans hd
  have hmem : r.obligation kind r.operators[1]?.toList r.operators[0]? ∈ os := by
    rw [hos]
    exact List.mem_cons_of_mem _ (slot1_mem_weaker htwo hkind)
  obtain ⟨a, ha⟩ : ∃ a, r.operators[0]? = some a := ⟨_, List.getElem?_eq_getElem (by omega)⟩
  refine ⟨List.mem_map_of_mem hmem, a, ha, ?_⟩
  cases hfirst : Obligation.firstCompanion (kind, r.operators[1]?.toList) os with
  | none =>
    have hnone := Obligation.firstCompanion_eq_none_iff.mp hfirst _ hmem rfl
    rw [obligation_companion, ha] at hnone
    cases hnone
  | some b =>
    obtain ⟨o, ho, _, hob⟩ := Obligation.exists_of_firstCompanion hfirst
    obtain ⟨_, _, _, _, _, hb⟩ := companion_of_expand h ho hob
    rw [← ha, hb]

theorem CompanionsAgree.obligations (h : CompanionsAgree c rs)
    (hrs : ∀ r ∈ rs, ∃ own, expand c r = .ok own) :
    Obligation.CompanionsAgree (rs.flatMap (implied c)) := by
  intro o ho p hp hkey a b ha hb
  obtain ⟨r, hr, hor⟩ := List.mem_flatMap.mp ho
  obtain ⟨s, hs, hps⟩ := List.mem_flatMap.mp hp
  obtain ⟨_, hown⟩ := hrs r hr
  obtain ⟨_, hown'⟩ := hrs s hs
  rw [implied_of_expand hown] at hor
  rw [implied_of_expand hown'] at hps
  obtain ⟨d, hd, hdtwo, hkind, hops, hfirst⟩ := companion_of_expand hown hor ha
  obtain ⟨e, he, hetwo, hkind', hops', hfirst'⟩ := companion_of_expand hown' hps hb
  obtain ⟨hk, hsecond⟩ := Prod.mk.inj hkey
  have hlist := congrArg List.head? (hops.trans (hsecond.trans hops'.symm))
  rw [Option.head?_toList, Option.head?_toList] at hlist
  have hagree := h r hr s hs d e hd he hdtwo hetwo o.kind hkind (hk ▸ hkind') hlist
  rw [hfirst, hfirst'] at hagree
  exact Option.some.inj hagree

theorem expandAll_of_perm {target : Option String} (h : expandAll c rs target = .ok os)
    (hp : rs'.Perm rs) :
    expandAll c rs' target = .ok (Obligation.dedupe (rs'.flatMap (implied c))) := by
  obtain ⟨hne, hrs, _⟩ := expandAll_eq_ok_iff.mp h
  refine expandAll_eq_ok_iff.mpr ⟨?_, fun r hr => hrs r (hp.mem_iff.mp hr), rfl⟩
  rintro rfl
  exact hne hp.nil_eq.symm

/-- A request that is moved to the front names the companion of all that it implies under its
second operator. -/
theorem exists_front_companion {target : Option String} (h : expandAll c rs target = .ok os)
    (hr : r ∈ rs) (hfind : c.find? r.kind = some e) (htwo : e.arity = 2) {kind : String}
    (hkind : kind ∈ e.slot1) (hsame : ∀ rs' os', rs'.Perm rs → expandAll c rs' target = .ok os' →
      Obligation.SameCompanions os os') :
    ∃ o ∈ os, o.key = (kind, r.operators[1]?.toList) ∧ o.companion = r.operators[0]? := by
  obtain ⟨_, hrs, hos⟩ := expandAll_eq_ok_iff.mp h
  obtain ⟨own, hown⟩ := hrs r hr
  obtain ⟨hkey, a, ha, hfirst⟩ := firstCompanion_implied hown hfind htwo hkind
  have hperm : (r :: rs.erase r).Perm rs := (List.perm_cons_erase hr).symm
  have hfront : (kind, r.operators[1]?.toList) ∈
      ((r :: rs.erase r).flatMap (implied c)).map (·.key) := by
    rw [List.flatMap_cons, List.map_append, implied_of_expand hown]
    exact List.mem_append_left _ hkey
  obtain ⟨p, hp, hpkey⟩ := List.mem_map.mp (Obligation.mem_keys_dedupe.mpr hfront)
  obtain ⟨o, ho, hokey⟩ := List.mem_map.mp
    ((Obligation.perm_keys_dedupe (hperm.flatMap_right (implied c))).mem_iff.mp
      (List.mem_map_of_mem hp))
  rw [← hos] at ho
  refine ⟨o, ho, hokey.trans hpkey, ?_⟩
  rw [hsame _ _ hperm (expandAll_of_perm h hperm) o ho p hp hokey,
    Obligation.companion_of_mem_dedupe hp, hpkey, List.flatMap_cons, implied_of_expand hown,
    Obligation.firstCompanion_append, hfirst, ha]
  rfl

/-- Every order of a list of requests gives the same keys. Every order gives the same companions,
and with them the same guards, exactly when the companions that the requests name agree. -/
theorem expandAll_perm_iff {target : Option String} (h : expandAll c rs target = .ok os) :
    (∀ rs', rs'.Perm rs → ∃ os', expandAll c rs' target = .ok os' ∧
      (os'.map (·.key)).Perm (os.map (·.key))) ∧
    ((∀ rs' os', rs'.Perm rs → expandAll c rs' target = .ok os' →
      Obligation.SameCompanions os os') ↔ CompanionsAgree c rs) ∧
    (CompanionsAgree c rs → ∀ rs' os', rs'.Perm rs → expandAll c rs' target = .ok os' →
      Obligation.SameGuards os os') := by
  obtain ⟨_, hrs, hos⟩ := expandAll_eq_ok_iff.mp h
  have hsame : CompanionsAgree c rs → ∀ rs' os', rs'.Perm rs →
      expandAll c rs' target = .ok os' → Obligation.SameCompanions os os' := by
    intro hagree rs' os' hp h'
    obtain ⟨_, _, rfl⟩ := expandAll_eq_ok_iff.mp h'
    exact hos ▸ (hagree.obligations hrs).sameCompanions (hp.flatMap_right (implied c))
  refine ⟨?_, ⟨?_, hsame⟩, fun hagree rs' os' hp h' => (hsame hagree rs' os' hp h').sameGuards⟩
  · intro rs' hp
    refine ⟨_, expandAll_of_perm h hp, ?_⟩
    rw [hos]
    exact Obligation.perm_keys_dedupe (hp.flatMap_right (implied c))
  · intro hall r hr s hs d e hd he hdtwo hetwo kind hkind hkind' hsecond
    obtain ⟨o, ho, hokey, hocompanion⟩ := exists_front_companion h hr hd hdtwo hkind hall
    obtain ⟨p, hp, hpkey, hpcompanion⟩ := exists_front_companion h hs he hetwo hkind' hall
    have heq : o.key = p.key := by rw [hokey, hpkey, hsecond]
    rw [← hocompanion, ← hpcompanion]
    exact hall rs os (List.Perm.refl _) h o ho p hp heq

end

attribute [local instance] Host.terminal

theorem expandAll_perm_group_field :
    let rs : List Request := [⟨"Group", ["Multiplicative"], none, 0⟩,
      ⟨"Field", ["Additive", "Multiplicative"], some "T: Copy", 1⟩]
    ∃ os, expandAll Catalog.standard rs none = .ok os ∧
      ∀ rs' os', rs'.Perm rs → expandAll Catalog.standard rs' none = .ok os' →
        Obligation.SameCompanions os os' ∧ Obligation.SameGuards os os' := by
  intro rs
  have hgroup : ∀ d, Catalog.standard.find? "Group" = some d → d.arity ≠ 2 := by
    rintro d ⟨⟩
    decide
  have hagree : CompanionsAgree Catalog.standard rs := by
    intro r hr s hs d e hd he hdtwo hetwo
    simp only [rs, List.mem_cons, List.not_mem_nil, or_false] at hr hs
    rcases hr with rfl | rfl
    · exact absurd hdtwo (hgroup d hd)
    · rcases hs with rfl | rfl
      · exact absurd hetwo (hgroup e he)
      · exact fun _ _ _ _ => rfl
  obtain ⟨os, hos⟩ : ∃ os, expandAll Catalog.standard rs none = .ok os := ⟨_, rfl⟩
  obtain ⟨_, hsame, hguards⟩ := expandAll_perm_iff hos
  exact ⟨os, hos, fun rs' os' hp h' =>
    ⟨hsame.mpr hagree rs' os' hp h', hguards hagree rs' os' hp h'⟩⟩

/-- Two divisions by one multiplication, each with an addition of its own: the one that is declared
first names the operator whose identity the law of the quasigroup is guarded against. -/
theorem guard_follows_first_division :
    let c : Catalog := ⟨Catalog.standard.entries ++
      [{ kind := "Division", arity := 2, slot1 := ["Quasigroup"] }]⟩
    let r : Request := ⟨"Division", ["Additive", "Multiplicative"], none, 0⟩
    let s : Request := ⟨"Division", ["Other", "Multiplicative"], none, 1⟩
    ∃ os os' o p entry, [s, r].Perm [r, s] ∧ expandAll c [r, s] none = .ok os ∧
      expandAll c [s, r] none = .ok os' ∧ o ∈ os ∧ p ∈ os' ∧ o.key = p.key ∧
        o.companion ≠ p.companion ∧ c.find? o.kind = some entry ∧
          ({} : GuardPolicy).guardFor o entry = some ⟨"Additive"⟩ ∧
            ({} : GuardPolicy).guardFor p entry = some ⟨"Other"⟩ := by
  intro c r s
  obtain ⟨os, hos, ho⟩ : ∃ os, expandAll c [r, s] none = .ok os ∧
      ⟨"Quasigroup", ["Multiplicative"], none, 0, some "Additive"⟩ ∈ os :=
    ⟨_, rfl, by decide +kernel⟩
  obtain ⟨os', hos', hp⟩ : ∃ os', expandAll c [s, r] none = .ok os' ∧
      ⟨"Quasigroup", ["Multiplicative"], none, 1, some "Other"⟩ ∈ os' :=
    ⟨_, rfl, by decide +kernel⟩
  exact ⟨os, os', _, _, _, List.Perm.swap r s [], hos, hos', ho, hp, rfl, by decide, rfl, rfl, rfl⟩

end Request
end StructureDerive
