import StructureDerive.Catalog.Consistency
import StructureDerive.Proofs.Expansion

/-! # Extensions of a catalog

An extension keeps the places of the kinds that are there and puts the others behind them. A look-up
finds the last new entry of a kind, or the old one. New kinds are not compared with each other, so a
kind that is new and given twice stands twice in the extension.
-/
namespace StructureDerive.Catalog
open Outcome
variable {c d : Catalog} {e : Entry} {known extra : List Entry} {kind : String}

theorem ofKind?_append (entries more : List Entry) (kind : String) :
    ofKind? (entries ++ more) kind = (ofKind? more kind).or (ofKind? entries kind) := by
  rw [ofKind?, List.reverse_append, List.find?_append]
  rfl

theorem ofKind?_cons (e : Entry) (entries : List Entry) (kind : String) :
    ofKind? (e :: entries) kind =
      (ofKind? entries kind).or (if e.kind = kind then some e else none) := by
  rw [← List.singleton_append, ofKind?_append]
  by_cases he : e.kind = kind <;> simp [ofKind?, he]

theorem ofKind?_eq_none_iff : ofKind? extra kind = none ↔ kind ∉ extra.map (·.kind) := by
  simp [ofKind?]

theorem kind_of_ofKind? (h : ofKind? extra kind = some e) : e.kind = kind := by
  have hkind := List.find?_some h
  exact of_decide_eq_true hkind

/-- The entry of a kind that no later entry of a list replaces. -/
def IsLast (entries : List Entry) (kind : String) (e : Entry) : Prop :=
  ∃ before after, entries = before ++ e :: after ∧ e.kind = kind ∧
    ∀ later ∈ after, later.kind ≠ kind

theorem ofKind?_eq_some_iff : ofKind? extra kind = some e ↔ IsLast extra kind e := by
  constructor
  · intro h
    obtain ⟨hkind, after, before, hreverse, hafter⟩ := List.find?_eq_some_iff_append.mp h
    refine ⟨before.reverse, after.reverse, ?_, of_decide_eq_true hkind, fun later hlater => ?_⟩
    · rw [← List.reverse_reverse extra, hreverse]
      simp
    · simpa using hafter later (List.mem_reverse.mp hlater)
  · rintro ⟨before, after, rfl, hkind, hafter⟩
    have hnone : ofKind? after kind = none := by
      rw [ofKind?_eq_none_iff, List.mem_map]
      rintro ⟨later, hlater, heq⟩
      exact hafter later hlater heq
    rw [ofKind?_append, ofKind?_cons, hnone, if_pos hkind]
    rfl

theorem ofKind?_filter_ne_self (extra : List Entry) (kind : String) :
    ofKind? (extra.filter (·.kind ≠ kind)) kind = none := by
  rw [ofKind?_eq_none_iff, List.mem_map]
  rintro ⟨e, he, hkind⟩
  exact of_decide_eq_true (List.mem_filter.mp he).2 hkind

theorem ofKind?_filter_ne {other : String} (h : other ≠ kind) (extra : List Entry) :
    ofKind? (extra.filter (·.kind ≠ other)) kind = ofKind? extra kind := by
  rw [ofKind?, ← List.filter_reverse, List.find?_filter]
  refine congrArg (List.find? · extra.reverse) (funext fun e => ?_)
  by_cases he : e.kind = kind
  · have hne : e.kind ≠ other := fun heq => h (heq.symm.trans he)
    simp [he, Ne.symm h]
  · simp [he]

/-- As long as no old kind is repeated, a look-up prefers the new entries. -/
theorem ofKind?_replaceKnown (hknown : (known.map (·.kind)).Nodup) (extra : List Entry)
    (kind : String) :
    ofKind? (replaceKnown known extra) kind = (ofKind? extra kind).or (ofKind? known kind) := by
  fun_induction replaceKnown known extra with
  | case1 extra => simp [ofKind?]
  | case2 e known extra replacement hreplacement ih =>
    obtain ⟨hfresh, hknown⟩ := List.nodup_cons.mp hknown
    have hkind := kind_of_ofKind? hreplacement
    rw [ofKind?_cons, ofKind?_cons, ih hknown, hkind]
    -- the replacement is the only entry of its kind that is left on either side
    by_cases heq : e.kind = kind
    · have hnone : ofKind? known kind = none := ofKind?_eq_none_iff.mpr (heq ▸ hfresh)
      rw [← heq, ofKind?_filter_ne_self, hreplacement, heq, hnone]
      simp
    · rw [ofKind?_filter_ne heq, if_neg heq, if_neg heq]
      simp
  | case3 e known extra hnone ih =>
    obtain ⟨_, hknown⟩ := List.nodup_cons.mp hknown
    rw [ofKind?_cons, ofKind?_cons, ih hknown, Option.or_assoc]

/-- The kinds of some entries that are not known yet, in order and as often as they occur. -/
def newKinds (known : List String) (extra : List Entry) : List String :=
  (extra.map (·.kind)).filter (· ∉ known)

theorem newKinds_append (known : List String) (extra more : List Entry) :
    newKinds known (extra ++ more) = newKinds known extra ++ newKinds known more := by
  rw [newKinds, List.map_append, List.filter_append]
  rfl

theorem not_mem_of_mem_newKinds {known : List String} (h : kind ∈ newKinds known extra) :
    kind ∉ known :=
  of_decide_eq_true (List.mem_filter.mp h).2

theorem newKinds_cons {other : String} {known : List String} :
    newKinds (other :: known) extra = newKinds known (extra.filter (·.kind ≠ other)) := by
  simp only [newKinds, List.filter_map, List.filter_filter]
  refine congrArg (fun test => (extra.filter test).map (·.kind)) (funext fun e => ?_)
  by_cases he : e.kind = other <;> simp [he]

/-- Old kinds keep their places, and the new ones follow. -/
theorem kinds_replaceKnown (known extra : List Entry) :
    (replaceKnown known extra).map (·.kind) =
      known.map (·.kind) ++ newKinds (known.map (·.kind)) extra := by
  fun_induction replaceKnown known extra with
  | case1 extra => simp [newKinds]
  | case2 e known extra replacement hreplacement ih =>
    rw [List.map_cons, ih, kind_of_ofKind? hreplacement, List.map_cons, newKinds_cons,
      List.cons_append]
  | case3 e known extra hnone ih =>
    have hfilter : extra.filter (·.kind ≠ e.kind) = extra := by
      rw [List.filter_eq_self]
      intro x hx
      have hne : x.kind ≠ e.kind := fun heq =>
        ofKind?_eq_none_iff.mp hnone (heq ▸ List.mem_map_of_mem hx)
      exact decide_eq_true hne
    rw [List.map_cons, ih, List.map_cons, newKinds_cons, hfilter, List.cons_append]

variable [Host]

theorem extended_eq_ok_iff : c.extended extra = .ok d ↔
    d = ⟨replaceKnown c.entries extra⟩ ∧ d.inconsistencies = [] := by
  unfold extended
  dsimp only
  split
  · rename_i hconsistent
    constructor
    · rintro ⟨⟩
      exact ⟨rfl, hconsistent⟩
    · rintro ⟨rfl, _⟩
      rfl
  · rename_i hproblems
    constructor
    · intro h
      obtain ⟨_, _, ⟨⟩⟩ := bind_eq_ok_iff.mp h
    · rintro ⟨rfl, hconsistent⟩
      exact absurd hconsistent hproblems

theorem kinds_of_extended (h : c.extended extra = .ok d) :
    d.kinds = c.kinds ++ newKinds c.kinds extra := by
  obtain ⟨rfl, _⟩ := extended_eq_ok_iff.mp h
  exact kinds_replaceKnown c.entries extra

theorem find?_of_extended (hc : c.kinds.Nodup) (h : c.extended extra = .ok d) (kind : String) :
    d.find? kind = (ofKind? extra kind).or (c.find? kind) := by
  obtain ⟨rfl, _⟩ := extended_eq_ok_iff.mp h
  exact ofKind?_replaceKnown hc extra kind

/-- An extension repeats a kind only if its new entries do. -/
theorem nodup_kinds_of_extended_iff (hc : c.kinds.Nodup) (h : c.extended extra = .ok d) :
    d.kinds.Nodup ↔ (newKinds c.kinds extra).Nodup := by
  rw [kinds_of_extended h, List.nodup_append]
  constructor
  · rintro ⟨_, hnew, _⟩
    exact hnew
  · intro hnew
    refine ⟨hc, hnew, fun old hold new hnew' heq => ?_⟩
    exact not_mem_of_mem_newKinds hnew' (heq ▸ hold)

end StructureDerive.Catalog
