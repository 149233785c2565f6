import Mathlib.Data.List.Dedup
import StructureDerive.Catalog.Standard
import StructureDerive.Host.Terminal
import StructureDerive.Proofs.CatalogExtension

/-! # Runs of extensions

Catalogs are made from the standard one by extensions, one after the other. An extension never
removes a kind and never repeats one that is there, but it puts every new entry of an unknown kind
behind the others. So a run repeats a kind exactly when one of its lists names a kind twice that is
new at that time, and no later extension makes up for it.
-/
namespace StructureDerive.Catalog
open Outcome
variable {c d : Catalog} {e : Entry} {extra : List Entry} {batches : List (List Entry)}

/-- No list of a run names a kind twice that is new when the list is added. -/
def AddsOnce : List String → List (List Entry) → Prop
  | _, [] => True
  | known, extra :: batches =>
    (newKinds known extra).Nodup ∧ AddsOnce (known ++ newKinds known extra) batches

instance decidableAddsOnce : (known : List String) → (batches : List (List Entry)) →
    Decidable (AddsOnce known batches)
  | _, [] => inferInstanceAs (Decidable True)
  | known, extra :: batches =>
    have := decidableAddsOnce (known ++ newKinds known extra) batches
    inferInstanceAs (Decidable (_ ∧ _))

section
variable [Host]

theorem foldlM_extended_cons_iff : (extra :: batches).foldlM extended c = .ok d ↔
    ∃ next, c.extended extra = .ok next ∧ batches.foldlM extended next = .ok d := by
  rw [List.foldlM_cons, bind_eq_ok_iff]

theorem kinds_prefix_of_run (h : batches.foldlM extended c = .ok d) : c.kinds <+: d.kinds := by
  induction batches generalizing c with
  | nil =>
    cases h
    exact List.prefix_rfl
  | cons extra batches ih =>
    obtain ⟨next, hnext, hrest⟩ := foldlM_extended_cons_iff.mp h
    have hstep : c.kinds <+: next.kinds := by
      rw [kinds_of_extended hnext]
      exact List.prefix_append _ _
    exact hstep.trans (ih hrest)

theorem nodup_kinds_of_run_iff (hc : c.kinds.Nodup) (h : batches.foldlM extended c = .ok d) :
    d.kinds.Nodup ↔ AddsOnce c.kinds batches := by
  induction batches generalizing c with
  | nil =>
    cases h
    exact iff_of_true hc trivial
  | cons extra batches ih =>
    obtain ⟨next, hnext, hrest⟩ := foldlM_extended_cons_iff.mp h
    have hstep : next.kinds.Nodup ↔ (newKinds c.kinds extra).Nodup :=
      nodup_kinds_of_extended_iff hc hnext
    rw [AddsOnce, ← kinds_of_extended hnext, ← hstep]
    by_cases hkinds : next.kinds.Nodup
    · rw [ih hkinds hrest]
      exact (and_iff_right hkinds).symm
    · -- a repetition stays where it is, since the old kinds keep their places
      have hprefix : next.kinds.Sublist d.kinds := (kinds_prefix_of_run hrest).sublist
      exact iff_of_false (fun hd => hkinds (hd.sublist hprefix)) fun hboth => hkinds hboth.1

end

theorem length_eq_dedup_iff (c : Catalog) :
    c.entries.length = c.kinds.dedup.length ↔ c.kinds.Nodup := by
  have hlength : c.kinds.length = c.entries.length := List.length_map _
  constructor
  · intro h
    have hdedup : c.kinds.dedup = c.kinds :=
      (List.dedup_sublist c.kinds).eq_of_length (h.symm.trans hlength.symm)
    rw [← hdedup]
    exact List.nodup_dedup c.kinds
  · intro h
    rw [h.dedup, hlength]

/-- The entries that are listed are those that are looked up, if equal kinds have equal entries. -/
theorem forall_lookup_iff (c : Catalog) : (∀ e ∈ c.entries, c.lookup e.kind = .ok e) ↔
    ∀ e ∈ c.entries, ∀ f ∈ c.entries, e.kind = f.kind → e = f := by
  constructor
  · intro h e he f hf hkind
    have hfound : c.lookup e.kind = .ok f := by rw [hkind, h f hf]
    exact Except.ok.inj ((h e he).symm.trans hfound)
  · intro h e he
    rw [lookup_eq_ok_iff]
    cases hfind : c.find? e.kind with
    | none => exact absurd (List.mem_map_of_mem he) (ofKind?_eq_none_iff.mp hfind)
    | some f =>
      obtain ⟨hf, hkind⟩ := mem_of_find? hfind
      rw [h e he f hf hkind.symm]

theorem lookup_iff_of_nodup (hc : c.kinds.Nodup) (kind : String) (e : Entry) :
    c.lookup kind = .ok e ↔ e ∈ c.entries ∧ e.kind = kind := by
  rw [lookup_eq_ok_iff]
  constructor
  · exact mem_of_find?
  · rintro ⟨he, rfl⟩
    exact find?_kind hc he

/-- A run of extensions of the standard catalog repeats no kind, and has as many entries as kinds,
exactly when each of its lists names its new kinds once. Then an entry is listed if and only if it
is found by its kind. What is listed is found in any case if entries of one kind are equal. -/
theorem extensions_list_each_kind_once [Host] (h : batches.foldlM extended standard = .ok d) :
    (d.kinds.Nodup ↔ AddsOnce standard.kinds batches) ∧
    (d.entries.length = d.kinds.dedup.length ↔ AddsOnce standard.kinds batches) ∧
    ((∀ e ∈ d.entries, d.lookup e.kind = .ok e) ↔
      ∀ e ∈ d.entries, ∀ f ∈ d.entries, e.kind = f.kind → e = f) ∧
    (AddsOnce standard.kinds batches →
      ∀ kind e, d.lookup kind = .ok e ↔ e ∈ d.entries ∧ e.kind = kind) := by
  have hstandard : standard.kinds.Nodup := by decide
  have hkinds := nodup_kinds_of_run_iff hstandard h
  refine ⟨hkinds, ?_, forall_lookup_iff d, fun honce => ?_⟩
  · rw [length_eq_dedup_iff]
    exact hkinds
  · exact lookup_iff_of_nodup (hkinds.mpr honce)

attribute [local instance] Host.terminal

/-- A kind may be listed twice once it is there. -/
theorem extensions_list_each_kind_once_band :
    let band : Entry := { kind := "Band", arity := 1, slot0 := ["Semigroup"] }
    let plain : Entry := { kind := "Band", arity := 1 }
    ∃ d, [[plain], [plain, band]].foldlM extended standard = .ok d ∧
      AddsOnce standard.kinds [[plain], [plain, band]] ∧ d.kinds.Nodup ∧
      d.entries.length = d.kinds.dedup.length ∧ ∀ e ∈ d.entries, d.lookup e.kind = .ok e := by
  intro band plain
  have h : [[plain], [plain, band]].foldlM extended standard =
      .ok ⟨standard.entries ++ [band]⟩ :=
    foldlM_extended_cons_iff.mpr ⟨⟨standard.entries ++ [plain]⟩,
      extended_eq_ok_iff.mpr ⟨by decide +kernel, by decide +kernel⟩,
      foldlM_extended_cons_iff.mpr ⟨_,
        extended_eq_ok_iff.mpr ⟨by decide +kernel, by decide +kernel⟩, rfl⟩⟩
  have honce : AddsOnce standard.kinds [[plain], [plain, band]] := by decide +kernel
  obtain ⟨hkinds, hlength, _, hlookup⟩ := extensions_list_each_kind_once h
  exact ⟨_, h, honce, hkinds.mpr honce, hlength.mpr honce,
    fun e he => (hlookup honce e.kind e).mpr ⟨he, rfl⟩⟩

/-- A new kind that one list names twice is listed twice, and only the second entry is found. A
later list replaces the first entry, which is never found. -/
theorem extensions_list_new_kind_twice :
    let unary : Entry := { kind := "Quotient", arity := 1 }
    let binary : Entry := { kind := "Quotient", arity := 2 }
    ∃ d, [[unary, binary]].foldlM extended standard = .ok d ∧ ¬ d.kinds.Nodup ∧
      d.entries.length = 11 ∧ d.kinds.dedup.length = 10 ∧
      unary ∈ d.entries ∧ d.lookup unary.kind = .ok binary ∧
      ∃ d', d.extended [{ unary with guarded := true }] = .ok d' ∧
        d'.lookup unary.kind = .ok binary := by
  intro unary binary
  have h : [[unary, binary]].foldlM extended standard =
      .ok ⟨standard.entries ++ [unary, binary]⟩ :=
    foldlM_extended_cons_iff.mpr ⟨_,
      extended_eq_ok_iff.mpr ⟨by decide +kernel, by decide +kernel⟩, rfl⟩
  have hlater : extended ⟨standard.entries ++ [unary, binary]⟩ [{ unary with guarded := true }] =
      .ok ⟨standard.entries ++ [{ unary with guarded := true }, binary]⟩ :=
    extended_eq_ok_iff.mpr ⟨by decide +kernel, by decide +kernel⟩
  refine ⟨_, h, by decide +kernel, rfl, by decide +kernel, by decide +kernel, ?_, _, hlater, ?_⟩
  · exact lookup_eq_ok_iff.mpr (by decide +kernel)
  · exact lookup_eq_ok_iff.mpr (by decide +kernel)

end StructureDerive.Catalog
