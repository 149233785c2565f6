import StructureDerive.Catalog.Standard
import StructureDerive.Host.Terminal
import StructureDerive.Proofs.CatalogExtension
import StructureDerive.Proofs.LargerCatalog

/-! # What an extension changes

An extension overrides a catalog by name and leaves everything else as it is, so a declaration that
does not need the new kinds is derived as before. Two extensions one after the other are looked up
like one extension with both lists, suggestions included: a kind that is listed twice is no nearer
to a name the second time.
-/
namespace StructureDerive.Catalog
open Outcome
variable {c d d₁ d₂ : Catalog} {e : Entry} {extra more : List Entry} {kind name : String}

/-- A kind that cannot improve on the best one so far. -/
def Settled (name : String) (best : Option (Nat × String)) (kind : String) : Prop :=
  nearer name best kind = best

theorem settled_iff {best : Option (Nat × String)} : Settled name best kind ↔
    ∃ least found, best = some (least, found) ∧
      least ≤ Text.editDistance (Text.lower name) (Text.lower kind) := by
  cases best with
  | none => simp [Settled, nearer]
  | some best =>
    obtain ⟨least, found⟩ := best
    simp only [Settled, nearer]
    split
    · rename_i hless
      constructor
      · intro h
        have hleast := congrArg Prod.fst (Option.some.inj h)
        dsimp only at hleast
        omega
      · rintro ⟨_, _, ⟨⟩, hle⟩
        omega
    · rename_i hless
      exact iff_of_true rfl ⟨least, found, rfl, by omega⟩

theorem settled_nearer_self (name : String) (best : Option (Nat × String)) (kind : String) :
    Settled name (nearer name best kind) kind := by
  rw [settled_iff]
  unfold nearer
  dsimp only
  split
  · exact ⟨_, _, rfl, le_rfl⟩
  · split
    · exact ⟨_, _, rfl, le_rfl⟩
    · rename_i hless
      exact ⟨_, _, rfl, by omega⟩

theorem Settled.nearer {best : Option (Nat × String)} (h : Settled name best kind)
    (other : String) : Settled name (nearer name best other) kind := by
  obtain ⟨least, found, rfl, hle⟩ := settled_iff.mp h
  rw [settled_iff]
  simp only [Catalog.nearer]
  split
  · exact ⟨_, _, rfl, by omega⟩
  · exact ⟨_, _, rfl, hle⟩

theorem settled_foldl {best : Option (Nat × String)} {kinds : List String}
    (h : kind ∈ kinds ∨ Settled name best kind) :
    Settled name (kinds.foldl (nearer name) best) kind := by
  induction kinds generalizing best with
  | nil => exact h.resolve_left List.not_mem_nil
  | cons other kinds ih =>
    rw [List.foldl_cons]
    refine ih ?_
    rcases h with h | h
    · rcases List.mem_cons.mp h with rfl | h
      · exact Or.inr (settled_nearer_self name best kind)
      · exact Or.inl h
    · exact Or.inr (h.nearer other)

/-- Kinds that are settled can be left out. -/
theorem foldl_nearer_filter {best : Option (Nat × String)} {known : List String}
    (hknown : ∀ kind ∈ known, Settled name best kind) (kinds : List String) :
    (kinds.filter (· ∉ known)).foldl (nearer name) best = kinds.foldl (nearer name) best := by
  induction kinds generalizing best with
  | nil => rfl
  | cons kind kinds ih =>
    rw [List.filter_cons, List.foldl_cons]
    split
    · rw [List.foldl_cons]
      exact ih fun old hold => (hknown old hold).nearer kind
    · rename_i hmem
      have hsettled : nearer name best kind = best := hknown kind (by simpa using hmem)
      rw [hsettled]
      exact ih hknown

/-- A repetition of a kind is never the first of the nearest ones. -/
theorem closest_eq_of_kinds {known kinds : List String}
    (h₁ : d₁.kinds = known ++ kinds.filter (· ∉ known)) (h₂ : d₂.kinds = known ++ kinds)
    (name : String) : d₁.closest name = d₂.closest name := by
  have hknown : ∀ kind ∈ known, Settled name (known.foldl (nearer name) none) kind :=
    fun kind hkind => settled_foldl (Or.inl hkind)
  rw [closest, closest, h₁, h₂, List.foldl_append, List.foldl_append, foldl_nearer_filter hknown]

theorem lookup_eq_of_find? (hfind : ∀ kind, d₁.find? kind = d₂.find? kind)
    (hclosest : ∀ name, d₁.closest name = d₂.closest name) (kind : String) :
    d₁.lookup kind = d₂.lookup kind := by
  rw [lookup, lookup, hfind kind, hclosest kind]

theorem newKinds_append_known (known new : List String) (more : List Entry) :
    newKinds (known ++ new) more = (newKinds known more).filter (· ∉ known ++ new) := by
  simp only [newKinds, List.filter_filter]
  refine List.filter_congr fun kind _ => ?_
  by_cases hknown : kind ∈ known <;> simp [hknown]

section
variable [Host]

theorem find?_of_extended_eq_some_iff (hc : c.kinds.Nodup) (h : c.extended extra = .ok d) :
    d.find? kind = some e ↔
      IsLast extra kind e ∨ (∀ new ∈ extra, new.kind ≠ kind) ∧ c.find? kind = some e := by
  rw [find?_of_extended hc h, Option.or_eq_some_iff, ofKind?_eq_some_iff, ofKind?_eq_none_iff]
  simp

/-- Whatever the old catalog has and the new entries do not name is still there. -/
theorem isPartOf_of_extended (hc : c.kinds.Nodup) (h : c.extended extra = .ok d)
    (hnew : ∀ e ∈ extra, e.kind ∉ c.kinds) : c.IsPartOf d := by
  intro kind e he
  have hmem : kind ∈ c.kinds := by
    obtain ⟨hentry, rfl⟩ := mem_of_find? he
    exact List.mem_map_of_mem hentry
  refine (find?_of_extended_eq_some_iff hc h).mpr (Or.inr ⟨?_, he⟩)
  rintro new hmem' rfl
  exact hnew new hmem' hmem

theorem lookup_of_two_extensions (hc : c.kinds.Nodup) (hextra : (extra.map (·.kind)).Nodup)
    (h : c.extended extra = .ok d) (h₁ : d.extended more = .ok d₁)
    (h₂ : c.extended (extra ++ more) = .ok d₂) (kind : String) :
    d₁.lookup kind = d₂.lookup kind := by
  have hd : d.kinds.Nodup := (nodup_kinds_of_extended_iff hc h).mpr (hextra.filter _)
  have hkinds₁ : d₁.kinds =
      d.kinds ++ (newKinds c.kinds more).filter (· ∉ d.kinds) := by
    rw [kinds_of_extended h₁, kinds_of_extended h, newKinds_append_known]
  have hkinds₂ : d₂.kinds = d.kinds ++ newKinds c.kinds more := by
    rw [kinds_of_extended h₂, kinds_of_extended h, newKinds_append, List.append_assoc]
  refine lookup_eq_of_find? (fun kind => ?_) (closest_eq_of_kinds hkinds₁ hkinds₂) kind
  rw [find?_of_extended hd h₁, find?_of_extended hc h, find?_of_extended hc h₂, ofKind?_append,
    Option.or_assoc]

/-- An extension overrides by name: a kind has its last new entry if it has one, and its old entry
otherwise, and the old kinds keep their places. If no old kind is named, every derivation stays as
it is. A second extension has the same look-ups as one extension by both lists. -/
theorem extended_overrides (hc : c.kinds.Nodup) (h : c.extended extra = .ok d) :
    (∀ kind e, d.lookup kind = .ok e ↔
      IsLast extra kind e ∨ (∀ new ∈ extra, new.kind ≠ kind) ∧ c.lookup kind = .ok e) ∧
    c.kinds <+: d.kinds ∧
    ((∀ e ∈ extra, e.kind ∉ c.kinds) → ∀ (declaration : Declaration) (options : Options)
      (withTests : Bool) (result : Derivation),
      declaration.derive c options withTests = .ok result →
        declaration.derive d options withTests = .ok result) ∧
    ((extra.map (·.kind)).Nodup → ∀ more d₁ d₂, d.extended more = .ok d₁ →
      c.extended (extra ++ more) = .ok d₂ → ∀ kind, d₁.lookup kind = d₂.lookup kind) := by
  refine ⟨fun kind e => ?_, ?_, ?_, ?_⟩
  · rw [lookup_eq_ok_iff, lookup_eq_ok_iff]
    exact find?_of_extended_eq_some_iff hc h
  · rw [kinds_of_extended h]
    exact List.prefix_append _ _
  · intro hnew declaration options withTests result hresult
    exact Declaration.derive_of_isPartOf (isPartOf_of_extended hc h hnew) hresult
  · intro hextra more d₁ d₂ h₁ h₂ kind
    exact lookup_of_two_extensions hc hextra h h₁ h₂ kind

end

attribute [local instance] Host.terminal

/-- A new kind, which a second extension replaces. -/
theorem extended_overrides_by_band :
    let band : Entry :=
      { kind := "Band", arity := 1, slot0 := ["Semigroup"], laws := [⟨"prop_is_idempotent", 1⟩] }
    let plain : Entry := { kind := "Band", arity := 1 }
    let group : Declaration :=
      { target := { name := "W" }, entries := [⟨"Group", .text "Additive"⟩], tested := true }
    standard.kinds.Nodup ∧ ∃ d d₁ d₂ result, standard.extended [band] = .ok d ∧
      d.lookup "Band" = .ok band ∧ standard.kinds <+: d.kinds ∧
      group.derive standard {} true = .ok result ∧ group.derive d {} true = .ok result ∧
      d.extended [plain] = .ok d₁ ∧ standard.extended [band, plain] = .ok d₂ ∧
      d₁.lookup "Bond" = d₂.lookup "Bond" := by
  intro band plain group
  have hc : standard.kinds.Nodup := by decide
  have h : standard.extended [band] = .ok ⟨standard.entries ++ [band]⟩ :=
    extended_eq_ok_iff.mpr ⟨by decide +kernel, by decide +kernel⟩
  have h₁ : extended ⟨standard.entries ++ [band]⟩ [plain] = .ok ⟨standard.entries ++ [plain]⟩ :=
    extended_eq_ok_iff.mpr ⟨by decide +kernel, by decide +kernel⟩
  have h₂ : standard.extended [band, plain] = .ok ⟨standard.entries ++ [band, plain]⟩ :=
    extended_eq_ok_iff.mpr ⟨by decide +kernel, by decide +kernel⟩
  obtain ⟨result, hresult, _⟩ : ∃ result, group.derive standard {} true = .ok result ∧ _ :=
    exists_ok_of_any (show ((group.derive standard {} true).toOption.any fun _ => true) = true by
      decide +kernel)
  obtain ⟨hlookup, hplaces, hconservative, htwice⟩ := extended_overrides hc h
  have hband : IsLast [band] "Band" band := ⟨[], [], rfl, rfl, List.forall_mem_nil _⟩
  exact ⟨hc, _, _, _, result, h, (hlookup "Band" band).mpr (Or.inl hband), hplaces, hresult,
    hconservative (by decide) group {} true result hresult, h₁, h₂,
    htwice (by decide) [plain] _ _ h₁ h₂ "Bond"⟩

end StructureDerive.Catalog
