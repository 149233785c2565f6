import StructureDerive.Proofs.EntryGrammar
import StructureDerive.Proofs.TestMatrix

/-! # Derivations under a larger catalog

A derivation that succeeds has looked up only kinds that are there. So it is the same under every
catalog that gives these kinds the same entries, whatever else that catalog holds. The stages below
are those of a derivation, in order.
-/
namespace StructureDerive
open Outcome
variable {c c' : Catalog} {rs : List Request} {os : List Obligation}

/-- Every kind of the first catalog has the same entry in the second one. -/
def Catalog.IsPartOf (c c' : Catalog) : Prop :=
  ∀ kind e, c.find? kind = some e → c'.find? kind = some e

namespace TraitEntry
variable {e : TraitEntry} {es : List TraitEntry}

theorem Declares.of_isPartOf (h : Declares c e) (hpart : c.IsPartOf c') : Declares c' e := by
  obtain ⟨entry, hentry⟩ := h.known
  exact ⟨h.key_ne, ⟨entry, hpart _ _ hentry⟩, h.operators⟩

theorem Grammatical.of_isPartOf (h : Grammatical c es) (hpart : c.IsPartOf c') :
    Grammatical c' es :=
  ⟨fun e he => (h.entries e he).imp_left fun hd => hd.of_isPartOf hpart, h.leading, h.apart⟩

theorem requests_of_isPartOf (hpart : c.IsPartOf c') (h : requests c es = .ok rs) :
    requests c' es = .ok rs := by
  obtain ⟨hgrammar, hrs⟩ := requests_eq_ok_iff.mp h
  exact requests_eq_ok_iff.mpr ⟨hgrammar.of_isPartOf hpart, hrs⟩

end TraitEntry

namespace Request
variable {r : Request}

variable [Host]

theorem expand_of_isPartOf (hpart : c.IsPartOf c') (h : expand c r = .ok os) :
    expand c' r = .ok os := by
  obtain ⟨e, hfind, hexpand⟩ := expand_eq_ok_iff.mp h
  exact expand_eq_ok_iff.mpr ⟨e, hpart _ _ hfind, hexpand⟩

theorem flatMap_implied_of_isPartOf (hpart : c.IsPartOf c')
    (hrs : ∀ r ∈ rs, ∃ own, expand c r = .ok own) :
    rs.flatMap (implied c') = rs.flatMap (implied c) := by
  refine List.flatMap_congr fun r hr => ?_
  obtain ⟨own, hown⟩ := hrs r hr
  rw [implied_of_expand hown, implied_of_expand (expand_of_isPartOf hpart hown)]

theorem expandAll_of_isPartOf (hpart : c.IsPartOf c') {target : Option String}
    (h : expandAll c rs target = .ok os) : expandAll c' rs target = .ok os := by
  obtain ⟨hne, hrs, rfl⟩ := expandAll_eq_ok_iff.mp h
  refine expandAll_eq_ok_iff.mpr ⟨hne, fun r hr => ?_, ?_⟩
  · obtain ⟨own, hown⟩ := hrs r hr
    exact ⟨own, expand_of_isPartOf hpart hown⟩
  · rw [flatMap_implied_of_isPartOf hpart hrs]

end Request

theorem Target.stubs_of_isPartOf {t : Target} {ss : List Stub} (hpart : c.IsPartOf c')
    (h : t.stubs c os = .ok ss) : t.stubs c' os = .ok ss := by
  refine stubs_eq_ok_iff.mpr ((stubs_eq_ok_iff.mp h).imp fun o s hs => ?_)
  obtain ⟨entry, hentry, hstub⟩ := stub_eq_ok_iff.mp hs
  exact stub_eq_ok_iff.mpr ⟨entry, hpart _ _ hentry, hstub⟩

theorem TestPlan.matrix_of_isPartOf [Host] {p : TestPlan} {instantiations : List (List String)}
    (hpart : c.IsPartOf c') (hkinds : ∀ o ∈ os, c.contains o.kind) :
    p.matrix c' os instantiations = p.matrix c os instantiations := by
  have hfind : ∀ o ∈ os, c'.find? o.kind = c.find? o.kind := by
    intro o ho
    obtain ⟨e, he⟩ := Option.isSome_iff_exists.mp (hkinds o ho)
    rw [he, hpart _ _ he]
  have hkinds' : ∀ o ∈ os, c'.contains o.kind := by
    intro o ho
    rw [Catalog.contains, hfind o ho]
    exact hkinds o ho
  have hcells : Cell.all c' os instantiations = Cell.all c os instantiations :=
    List.flatMap_congr fun o ho => by rw [hfind o ho]
  rw [matrix_eq_foldlM hkinds', matrix_eq_foldlM hkinds, hcells]

namespace Declaration
variable [Host] {d : Declaration} {options : Options} {withTests : Bool} {result : Derivation}

theorem lawTests_of_isPartOf (hpart : c.IsPartOf c') (hkinds : ∀ o ∈ os, c.contains o.kind) :
    d.lawTests c' options os = d.lawTests c options os := by
  simp only [lawTests, TestPlan.matrix_of_isPartOf hpart hkinds]

theorem derive_of_isPartOf (hpart : c.IsPartOf c') (h : d.derive c options withTests = .ok result) :
    d.derive c' options withTests = .ok result := by
  obtain ⟨hread, hexpand, hstubs, htests, hmade⟩ := derive_eq_ok_iff.mp h
  refine derive_eq_ok_iff.mpr ⟨TraitEntry.requests_of_isPartOf hpart hread,
    Request.expandAll_of_isPartOf hpart hexpand, Target.stubs_of_isPartOf hpart hstubs, ?_, hmade⟩
  rwa [lawTests_of_isPartOf hpart (Target.contains_of_stubs hstubs)]

end Declaration
end StructureDerive
