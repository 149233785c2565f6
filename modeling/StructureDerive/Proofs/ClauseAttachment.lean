import StructureDerive.Host.Terminal
import StructureDerive.Proofs.CommaList
import StructureDerive.Proofs.Deduplication
import StructureDerive.Proofs.EntryGrammar
import StructureDerive.Proofs.StageSuccess

/-! # Clauses and the stubs that carry them

A clause refines the entry in front of it. It reaches the implementations that this entry is the
first to imply and no others, however the declarations of a target overlap.
-/
namespace StructureDerive
open Outcome

variable {c : Catalog} {t : Target} {e : TraitEntry} {es before after : List TraitEntry}
variable {rs : List Request} {o : Obligation} {os : List Obligation} {ss : List Stub}
variable {key : String × List String} {target : Option String} {first : Nat}

theorem Request.origin_of_find?_implied [Host] {r : Request} {rs₁ rs₂ : List Request}
    (hrs : ∀ q ∈ rs₁ ++ r :: rs₂, ∃ own, expand c q = .ok own)
    (hearliest : ∀ q ∈ rs₁, ¬ c.Implies q.kind q.operators key)
    (hr : c.Implies r.kind r.operators key)
    (hfind : ((rs₁ ++ r :: rs₂).flatMap (implied c)).find? (·.key = key) = some o) :
    o.clause = r.clause ∧ o.source = r.index := by
  obtain ⟨own, hown⟩ := hrs r (by simp)
  have hnone : (rs₁.flatMap (implied c)).find? (·.key = key) = none := by
    rw [List.find?_eq_none]
    intro p hp hpkey
    obtain ⟨q, hq, hpq⟩ := List.mem_flatMap.mp hp
    obtain ⟨own', hown'⟩ := hrs q (List.mem_append_left _ hq)
    rw [implied_of_expand hown'] at hpq
    have himplies := (mem_keys_of_expand hown').mp (List.mem_map_of_mem hpq)
    rw [of_decide_eq_true hpkey] at himplies
    exact hearliest q hq himplies
  have hsome : (own.find? (·.key = key)).isSome := by
    obtain ⟨p, hp, hpkey⟩ := List.mem_map.mp ((mem_keys_of_expand hown).mpr hr)
    exact List.find?_isSome.mpr ⟨p, hp, decide_eq_true hpkey⟩
  obtain ⟨p, hp⟩ := Option.isSome_iff_exists.mp hsome
  rw [List.flatMap_append, List.flatMap_cons, List.find?_append, hnone, Option.none_or,
    List.find?_append, implied_of_expand hown, hp, Option.some_or] at hfind
  cases hfind
  exact origin_of_expand hown (List.mem_of_find?_eq_some hp)

namespace TraitEntry

/-- A declaration that brings an implementation about. -/
def Implies (c : Catalog) (e : TraitEntry) (key : String × List String) : Prop :=
  e.key ≠ whereKey ∧ c.Implies e.key e.argument.operatorTexts key

/-- The earliest entry of a list that implies an implementation, with the entries around it. -/
structure FirstImplies (c : Catalog) (key : String × List String)
    (es before : List TraitEntry) (e : TraitEntry) (after : List TraitEntry) : Prop where
  split : es = before ++ e :: after
  implies : e.Implies c key
  earliest : ∀ d ∈ before, ¬ d.Implies c key

/-- The rank of a declaration that stands after some entries. -/
def rankAfter (before : List TraitEntry) : Nat := before.countP (·.key ≠ whereKey)

/-- The predicates of the clause at the head of the entries that follow a declaration. -/
def clausePredicates : List TraitEntry → List String
  | ⟨key, .text clause⟩ :: _ => if key = whereKey then Text.splitTopLevel clause else []
  | _ => []

theorem exists_firstImplies (h : ∃ e ∈ es, e.Implies c key) :
    ∃ before e after, FirstImplies c key es before e after := by
  induction es with
  | nil => simp at h
  | cons d es ih =>
    by_cases hd : d.Implies c key
    · exact ⟨[], d, es, rfl, hd, by simp⟩
    · obtain ⟨e, he, himplies⟩ := h
      have he : e ∈ es := by
        rcases List.mem_cons.mp he with rfl | he
        · exact absurd himplies hd
        · exact he
      obtain ⟨before, e', after, hsplit, himplies', hearliest⟩ := ih ⟨e, he, himplies⟩
      exact ⟨d :: before, e', after, by rw [hsplit, List.cons_append], himplies',
        List.forall_mem_cons.mpr ⟨hd, hearliest⟩⟩

/-- A list of requests is cut where a declaration stands: a clause refines only what is in front
of it. -/
theorem requestList_append (he : e.key ≠ whereKey) :
    requestList first (before ++ e :: after) = requestList first before ++
      requestAt (first + rankAfter before) (e, after.head?) ::
        requestList (first + rankAfter before + 1) after := by
  induction before generalizing first with
  | nil => exact requestList_cons he
  | cons d before ih =>
    by_cases hd : d.key = whereKey
    · have hrank : rankAfter (d :: before) = rankAfter before := by simp [rankAfter, hd]
      rw [List.cons_append, requestList_cons_of_where hd, requestList_cons_of_where hd, ih, hrank]
    · have hrank : rankAfter (d :: before) = 1 + rankAfter before := by
        simp [rankAfter, hd, Nat.add_comm]
      -- At the cut, the entry after `d` is `e`, which is no clause of it.
      have hnext : requestAt first (d, (before ++ e :: after).head?) =
          requestAt first (d, before.head?) := by
        cases before with
        | nil => simp [requestAt, clauseText, he]
        | cons _ _ => rfl
      rw [List.cons_append, requestList_cons hd, requestList_cons hd, ih, hrank, hnext,
        Nat.add_assoc first]
      rfl

theorem implies_iff_of_requestList :
    (∃ r ∈ requestList first es, c.Implies r.kind r.operators key) ↔
      ∃ e ∈ es, e.Implies c key := by
  constructor
  · rintro ⟨r, hr, himplies⟩
    obtain ⟨e, he, hkey, hkind, hops⟩ := exists_entry_of_mem_requestList hr
    rw [hkind, hops] at himplies
    exact ⟨e, he, hkey, himplies⟩
  · rintro ⟨e, he, hkey, himplies⟩
    obtain ⟨before, after, rfl⟩ := List.append_of_mem he
    refine ⟨requestAt (first + rankAfter before) (e, after.head?), ?_, himplies⟩
    simp [requestList_append hkey]

theorem mem_keys_iff [Host] (hread : requests c es = .ok rs)
    (hexpand : Request.expandAll c rs target = .ok os) :
    key ∈ os.map (·.key) ↔ ∃ e ∈ es, e.Implies c key := by
  obtain ⟨_, hrs, rfl⟩ := Request.expandAll_eq_ok_iff.mp hexpand
  obtain ⟨_, rfl⟩ := requests_eq_ok_iff.mp hread
  rw [Obligation.mem_keys_dedupe, List.map_flatMap, List.mem_flatMap, ← implies_iff_of_requestList]
  refine exists_congr fun r => and_congr_right fun hr => ?_
  obtain ⟨own, hown⟩ := hrs r hr
  rw [Request.implied_of_expand hown, Request.mem_keys_of_expand hown]

/-- An obligation has the clause and the rank of the first declaration that implies it. -/
theorem exists_origin [Host] (hread : requests c es = .ok rs)
    (hexpand : Request.expandAll c rs target = .ok os) (ho : o ∈ os) :
    ∃ before e after, FirstImplies c o.key es before e after ∧
      o.clause = after.head?.bind clauseText ∧ o.source = rankAfter before := by
  have hkey := (mem_keys_iff hread hexpand).mp (List.mem_map_of_mem ho)
  obtain ⟨before, e, after, hfirst⟩ := exists_firstImplies hkey
  refine ⟨before, e, after, hfirst, ?_⟩
  obtain ⟨_, hrs, rfl⟩ := Request.expandAll_eq_ok_iff.mp hexpand
  obtain ⟨_, rfl⟩ := requests_eq_ok_iff.mp hread
  obtain ⟨occurrence, hfind, heq⟩ := Obligation.exists_find?_of_mem_dedupe ho
  have hearliest : ∀ q ∈ requestList 0 before, ¬ c.Implies q.kind q.operators o.key := by
    intro q hq himplies
    obtain ⟨d, hd, hdimplies⟩ := implies_iff_of_requestList.mp ⟨q, hq, himplies⟩
    exact hfirst.earliest d hd hdimplies
  rw [hfirst.split, requestList_append hfirst.implies.1] at hrs hfind
  have horigin := Request.origin_of_find?_implied hrs hearliest hfirst.implies.2 hfind
  rw [Nat.zero_add] at horigin
  rw [heq]
  exact horigin

/-- A clause is split the same way whether it is stripped before or not. -/
theorem mergeWhere_clauseText (hes : Grammatical c (before ++ e :: after)) :
    t.mergeWhere (after.head?.bind clauseText) = t.predicates ++ clausePredicates after := by
  rw [Target.mergeWhere]
  cases after with
  | nil => rfl
  | cons d after =>
    obtain ⟨key, argument⟩ := d
    by_cases hkey : key = whereKey
    · have hentry := hes.entries ⟨key, argument⟩ (by simp)
      obtain ⟨s, rfl, _⟩ := (hentry.resolve_left fun hd => hd.key_ne hkey).clause
      simp [clauseText, clausePredicates, hkey, Value.text?, Text.splitTopLevel_strip]
    · have hnone : clausePredicates (⟨key, argument⟩ :: after) = [] := by
        unfold clausePredicates
        split
        · rename_i heq
          cases heq
          exact if_neg hkey
        · rfl
      simp [clauseText, hkey, hnone]

end TraitEntry

/-- There is one stub for each implementation that some declaration implies. The first declaration
that implies it gives it its rank and its predicates, those of the clause right after it, if any. -/
theorem stubs_follow_declarations [Host] (hread : TraitEntry.requests c es = .ok rs)
    (hexpand : Request.expandAll c rs target = .ok os) (hstubs : t.stubs c os = .ok ss) :
    (∀ key, key ∈ ss.map (·.key) ↔ ∃ e ∈ es, e.Implies c key) ∧
    (ss.map (·.key)).Nodup ∧ (ss.map fun s => (s.traitName, s.operators)).Nodup ∧
    List.Forall₂ (fun o s => s.key = o.key ∧ ∃ before e after,
      TraitEntry.FirstImplies c s.key es before e after ∧
      s.predicates = t.predicates ++ TraitEntry.clausePredicates after ∧
      o.source = (TraitEntry.rankAfter before : Int)) os ss := by
  have hkeys := Target.keys_of_stubs hstubs
  have hnodup : (ss.map (·.key)).Nodup := by
    rw [hkeys]
    exact Request.nodup_keys_of_expandAll hexpand
  refine ⟨fun key => ?_, hnodup, ?_, ?_⟩
  · rw [hkeys]
    exact TraitEntry.mem_keys_iff hread hexpand
  · rw [Target.traits_of_stubs hstubs]
    refine hnodup.map fun k k' heq => ?_
    obtain ⟨hkind, hops⟩ := Prod.mk.inj heq
    exact Prod.ext ((String.append_right_inj "Abstract").mp hkind) hops
  · have horigin := fun o ho => TraitEntry.exists_origin hread hexpand (o := o) ho
    have hboth := (List.forall₂_and_left os ss).mpr ⟨horigin, Target.stubs_eq_ok_iff.mp hstubs⟩
    refine hboth.imp ?_
    rintro o s ⟨⟨before, e, after, hfirst, hclause, hsource⟩, hs⟩
    obtain ⟨entry, _, rfl⟩ := Target.stub_eq_ok_iff.mp hs
    obtain ⟨hes, _⟩ := TraitEntry.requests_eq_ok_iff.mp hread
    rw [hfirst.split] at hes
    refine ⟨rfl, before, e, after, hfirst, ?_, hsource⟩
    rw [hclause, TraitEntry.mergeWhere_clauseText hes]

attribute [local instance] Host.terminal

theorem stubs_of_monoid_before_field :
    let c := Catalog.standard
    let t : Target := { name := "W", predicates := ["T: Eq"] }
    let es : List TraitEntry := [⟨"Monoid", .text "Multiplicative"⟩,
      ⟨"Where", .text " T: Fn(A, B), U: Copy"⟩,
      ⟨"Field", .list [.text "Additive", .text "Multiplicative"]⟩]
    ∃ rs os ss, TraitEntry.requests c es = .ok rs ∧ Request.expandAll c rs (some "W") = .ok os ∧
      t.stubs c os = .ok ss ∧ (ss.map (·.key)).Nodup ∧
      ∃ e ∈ es, e.Implies c ("Semigroup", ["Multiplicative"]) := by
  intro c t es
  obtain ⟨rs, os, ss, hread, hexpand, hstubs, hkey⟩ : ∃ rs os ss,
      TraitEntry.requests c es = .ok rs ∧ Request.expandAll c rs (some "W") = .ok os ∧
        t.stubs c os = .ok ss ∧ ("Semigroup", ["Multiplicative"]) ∈ ss.map (·.key) :=
    ⟨_, _, _, rfl, rfl, rfl, by decide +kernel⟩
  obtain ⟨himplied, hnodup, _⟩ := stubs_follow_declarations hread hexpand hstubs
  exact ⟨rs, os, ss, hread, hexpand, hstubs, hnodup, (himplied _).mp hkey⟩

end StructureDerive
