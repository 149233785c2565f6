import StructureDerive.Catalog.Basic

/-! # The standard kinds

The structures between quasigroups and fields. A magma carries the operation itself and is not
derived, so it has no entry.
-/
namespace StructureDerive.Catalog

/-- The commutative groups and all that they imply. -/
def commutativeGroupKinds : List String :=
  ["GroupAbelian", "Group", "Monoid", "Semigroup", "Loop", "Quasigroup"]

def standard : Catalog where
  entries := [
    { kind := "Quasigroup", arity := 1, laws := [⟨"prop_inv_is_latin_square", 2⟩],
      guarded := true },
    { kind := "Semigroup", arity := 1, laws := [⟨"prop_is_associative", 3⟩] },
    { kind := "Loop", arity := 1, slot0 := ["Quasigroup"] },
    { kind := "Monoid", arity := 1, slot0 := ["Semigroup"],
      laws := [⟨"prop_operating_identity_element_is_noop", 1⟩] },
    { kind := "Group", arity := 1, slot0 := ["Monoid", "Semigroup", "Loop", "Quasigroup"] },
    { kind := "GroupAbelian", arity := 1, slot0 := commutativeGroupKinds.tail,
      laws := [⟨"prop_is_commutative", 2⟩] },
    { kind := "Ring", arity := 2, slot0 := commutativeGroupKinds,
      slot1 := ["Monoid", "Semigroup"], laws := [⟨"prop_mul_and_add_are_distributive", 3⟩] },
    { kind := "RingCommutative", arity := 2, joint := ["Ring"], slot0 := commutativeGroupKinds,
      slot1 := ["Monoid", "Semigroup"], laws := [⟨"prop_mul_is_commutative", 2⟩] },
    { kind := "Field", arity := 2, joint := ["RingCommutative", "Ring"],
      slot0 := commutativeGroupKinds, slot1 := commutativeGroupKinds }]

end StructureDerive.Catalog
