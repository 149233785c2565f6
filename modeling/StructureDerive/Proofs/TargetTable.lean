import StructureDerive.Declaration.Target
import StructureDerive.Proofs.Outcome

/-! # The stages of reading a target table

A target table is read field by field: the name, the traits, the parameters and the predicates. The
first stage that does not succeed ends the reading.
-/
namespace StructureDerive.Declaration
open Outcome
variable {fields : List (Scalar × Value)} {position : Int} {d : Declaration} {name : String}
variable {traits : List Value}

/-- The name of a target table, stripped. -/
def name? (fields : List (Scalar × Value)) : Option String :=
  ((Value.lookup fields "name").getD .null).text?.bind Text.nonBlank?

def traits? (fields : List (Scalar × Value)) : Option (List Value) :=
  match (Value.lookup fields "traits").getD (.list []) with
  | .list traits => some traits
  | _ => none

def generics (fields : List (Scalar × Value)) : Value :=
  (Value.lookup fields "generics").getD .null

variable [Host]

theorem ofFields_of_unnamed (h : name? fields = none) : ofFields fields position =
    throw (.ofCause (.declaration (.unnamedTarget position))) := by
  unfold name? at h
  unfold ofFields
  dsimp only
  rw [h]

theorem ofFields_of_no_traits (hname : name? fields = some name) (htraits : traits? fields = none) :
    ofFields fields position = throw (.ofCause (.declaration (.traitsNotList name))) := by
  unfold name? at hname
  unfold traits? at htraits
  unfold ofFields
  dsimp only
  rw [hname]
  dsimp only
  generalize (Value.lookup fields "traits").getD (.list []) = given at htraits ⊢
  cases given with
  | list traits => cases htraits
  | _ => rfl

theorem ofFields_of_named (hname : name? fields = some name) (htraits : traits? fields = some traits) :
    ofFields fields position = traitEntries name traits >>= fun entries =>
      Generics.parse (generics fields) >>= fun generics =>
        liftM (textList s!"{name}.where" ((Value.lookup fields "where").getD .null)) >>=
          fun predicates => pure (testSettings { name, generics, predicates } entries
            ((Value.lookup fields "quickcheck").getD (.bool false))) := by
  unfold name? at hname
  unfold traits? at htraits
  unfold ofFields
  dsimp only
  rw [hname]
  dsimp only
  generalize (Value.lookup fields "traits").getD (.list []) = given at htraits ⊢
  cases given with
  | list members =>
    cases htraits
    rfl
  | _ => cases htraits

theorem ofFields_eq_ok_iff : ofFields fields position = .ok d ↔
    ∃ name traits entries g predicates, name? fields = some name ∧ traits? fields = some traits ∧
      traitEntries name traits = .ok entries ∧ Generics.parse (generics fields) = .ok g ∧
      textList s!"{name}.where" ((Value.lookup fields "where").getD .null) = .ok predicates ∧
      testSettings { name, generics := g, predicates } entries
        ((Value.lookup fields "quickcheck").getD (.bool false)) = d := by
  cases hname : name? fields with
  | none =>
    rw [ofFields_of_unnamed hname]
    exact iff_of_false throw_ne_ok (by simp)
  | some name =>
    cases htraits : traits? fields with
    | none =>
      rw [ofFields_of_no_traits hname htraits]
      exact iff_of_false throw_ne_ok (by simp)
    | some traits =>
      rw [ofFields_of_named hname htraits]
      simp only [bind_eq_ok_iff, liftM_cause_eq_ok_iff, pure, Except.pure, Except.ok.injEq]
      constructor
      · rintro ⟨entries, hentries, g, hg, predicates, hpredicates, hd⟩
        exact ⟨name, traits, entries, g, predicates, rfl, rfl, hentries, hg, hpredicates, hd⟩
      · rintro ⟨_, _, entries, g, predicates, ⟨⟩, ⟨⟩, hentries, hg, hpredicates, hd⟩
        exact ⟨entries, hentries, g, hg, predicates, hpredicates, hd⟩

end StructureDerive.Declaration
