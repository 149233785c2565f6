import StructureDerive.Host.Terminal
import StructureDerive.Proofs.Consistency

/-! # Expansion is a closure

Under a consistent catalog everything that an obligation implies is implied by the request that it
comes from, companions included. Asking for an obligation again therefore changes no list.
-/
namespace StructureDerive
open Request
variable {c : Catalog} {r q : Request} {o : Obligation}

section
variable [Host]

/-- An obligation, asked for on its own, has an expansion inside the one that it comes from. -/
theorem covers_expand (hc : c.inconsistencies = []) {os : List Obligation}
    (h : expand c r = .ok os) (ho : o ∈ os) (hkind : q.kind = o.kind)
    (hops : q.operators = o.operators) :
    ∃ own, expand c q = .ok own ∧ ∀ p ∈ own, ∃ k ∈ os, k.Covers p := by
  have hall := Catalog.inconsistencies_eq_nil_iff.mp hc
  obtain ⟨e, hfind, hlen, hzero, rfl⟩ := expand_eq_ok_iff.mp h
  rcases List.mem_cons.mp ho with rfl | ho
  · refine ⟨_, expand_eq_ok_iff.mpr ⟨e, hkind ▸ hfind, hops ▸ hlen, hzero, rfl⟩, ?_⟩
    intro p hp
    rcases List.mem_cons.mp hp with rfl | hp
    · exact ⟨_, List.mem_cons_self, by simp [hkind, hops], fun _ => rfl⟩
    · obtain ⟨k, hk, hcovers⟩ := covers_of_sublists hops (List.Subset.refl _)
        (List.Subset.refl _) (fun htwo => ⟨htwo, List.Subset.refl _⟩) hp
      exact ⟨k, List.mem_cons_of_mem _ hk, hcovers⟩
  · have he := hall e (Catalog.mem_of_find? hfind).1
    obtain ⟨own, hown, hcovers⟩ := he.covers_weaker hall hlen ho hkind hops
    refine ⟨own, hown, fun p hp => ?_⟩
    obtain ⟨k, hk, hkp⟩ := hcovers p hp
    exact ⟨k, List.mem_cons_of_mem _ hk, hkp⟩

/-- The same for the obligations of a whole list of requests, repetitions included. -/
theorem covers_flatMap_implied (hc : c.inconsistencies = []) {rs : List Request}
    (hrs : ∀ r ∈ rs, ∃ own, expand c r = .ok own) (ho : o ∈ rs.flatMap (implied c))
    (hkind : q.kind = o.kind) (hops : q.operators = o.operators) :
    ∃ own, expand c q = .ok own ∧ ∀ p ∈ own, ∃ k ∈ rs.flatMap (implied c), k.Covers p := by
  obtain ⟨r, hr, hor⟩ := List.mem_flatMap.mp ho
  obtain ⟨os, hos⟩ := hrs r hr
  rw [implied_of_expand hos] at hor
  obtain ⟨own, hown, hcovers⟩ := covers_expand hc hos hor hkind hops
  refine ⟨own, hown, fun p hp => ?_⟩
  obtain ⟨k, hk, hkp⟩ := hcovers p hp
  exact ⟨k, List.mem_flatMap.mpr ⟨r, hr, by rwa [implied_of_expand hos]⟩, hkp⟩

/-- Under a consistent catalog, a request for an obligation that is there already leaves the
obligations of a target as they are, and all that it implies is among them. -/
theorem expandAll_append_obligation (hc : c.inconsistencies = []) {rs : List Request}
    {target : Option String} {os : List Obligation} (h : expandAll c rs target = .ok os)
    (ho : o ∈ os) (clause : Option String) (index : Int) :
    expandAll c (rs ++ [{ kind := o.kind, operators := o.operators, clause, index }]) target =
        .ok os ∧
      ∃ own, expand c { kind := o.kind, operators := o.operators, clause, index } = .ok own ∧
        ∀ p ∈ own, p.key ∈ os.map (·.key) := by
  obtain ⟨hne, hrs, rfl⟩ := expandAll_eq_ok_iff.mp h
  obtain ⟨first, hfirst, hkey⟩ :=
    List.mem_map.mp (Obligation.mem_keys_dedupe.mp (List.mem_map_of_mem ho))
  obtain ⟨hkind, hops⟩ := Prod.mk.inj hkey
  obtain ⟨own, hown, hcovers⟩ := covers_flatMap_implied hc hrs hfirst
    (q := { kind := o.kind, operators := o.operators, clause, index }) hkind.symm hops.symm
  refine ⟨?_, own, hown, fun p hp => ?_⟩
  · refine expandAll_eq_ok_iff.mpr ⟨by simp, ?_, ?_⟩
    · intro r hr
      rcases List.mem_append.mp hr with hr | hr
      · exact hrs r hr
      · exact ⟨own, List.mem_singleton.mp hr ▸ hown⟩
    · rw [List.flatMap_append, List.flatMap_singleton, implied_of_expand hown,
        Obligation.dedupe_append_of_covers hcovers]
  · obtain ⟨k, hk, hkp, _⟩ := hcovers p hp
    exact Obligation.mem_keys_dedupe.mpr (hkp ▸ List.mem_map_of_mem hk)

end

attribute [local instance] Host.terminal

theorem expandAll_append_monoid_of_ring :
    let rs : List Request := [⟨"Monoid", ["Multiplicative"], none, 0⟩,
      ⟨"Ring", ["Additive", "Multiplicative"], some "T: Copy", 1⟩]
    let o : Obligation := ⟨"Monoid", ["Multiplicative"], none, 0, some "Additive"⟩
    ∃ os, Catalog.standard.inconsistencies = [] ∧ expandAll Catalog.standard rs none = .ok os ∧
      o ∈ os ∧ expandAll Catalog.standard
        (rs ++ [{ kind := o.kind, operators := o.operators, clause := some "T: Eq", index := 2 }])
          none = .ok os := by
  intro rs o
  have hc : Catalog.standard.inconsistencies = [] := by decide +kernel
  obtain ⟨os, hos, ho⟩ : ∃ os, expandAll Catalog.standard rs none = .ok os ∧ o ∈ os :=
    ⟨_, rfl, by decide +kernel⟩
  exact ⟨os, hc, hos, ho, (expandAll_append_obligation hc hos ho (some "T: Eq") 2).1⟩

end StructureDerive
