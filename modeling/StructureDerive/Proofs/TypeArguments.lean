import StructureDerive.Proofs.CommaList
import StructureDerive.Proofs.Instantiation

/-! # The arguments of an instantiated type

An instantiation is accepted by the number of its types, and each type by its characters and its
angle brackets alone. So a text with a comma between two types counts as one type, and brackets of
the other kinds may stay open. The argument list that is written is split into the arguments again
exactly when no argument has a comma outside its brackets and only the last leaves brackets open.
-/
namespace StructureDerive
open Outcome

namespace Generics
variable {p : Parameter} {ps : List Parameter} {type : String} {types arguments : List String}

/-- One argument for each parameter: the lifetimes get `'static`, the others the types in order. -/
inductive Filled : List Parameter → List String → List String → Prop where
  | nil : Filled [] [] []
  | lifetime {p : Parameter} {ps : List Parameter} {types arguments : List String} :
      p.kind = .lifetime → Filled ps types arguments →
        Filled (p :: ps) types ("'static" :: arguments)
  | supplied {p : Parameter} {ps : List Parameter} {type : String} {types arguments : List String} :
      p.kind ≠ .lifetime → Filled ps types arguments →
        Filled (p :: ps) (type :: types) (type :: arguments)

theorem filled_iff : Filled ps types arguments ↔ fill ps types = .ok arguments ∧
    types.length = (ps.filter (·.isInstantiable)).length := by
  constructor
  · intro h
    induction h with
    | nil => exact ⟨rfl, rfl⟩
    | lifetime hp _ ih =>
      obtain ⟨hfill, hlen⟩ := ih
      simp [fill, hp, hfill, hlen, Parameter.isInstantiable, bind, Except.bind, pure, Except.pure]
    | supplied hp _ ih =>
      obtain ⟨hfill, hlen⟩ := ih
      simp [fill, hp, hfill, hlen, Parameter.isInstantiable, bind, Except.bind, pure, Except.pure]
  · rintro ⟨hfill, hlen⟩
    induction ps generalizing types arguments with
    | nil =>
      obtain rfl : types = [] := List.eq_nil_of_length_eq_zero hlen
      cases hfill
      exact .nil
    | cons p ps ih =>
      by_cases hp : p.kind = .lifetime
      · simp only [fill, hp, if_true, bind_eq_ok_iff] at hfill
        obtain ⟨rest, hrest, ⟨⟩⟩ := hfill
        exact .lifetime hp (ih hrest (by simpa [Parameter.isInstantiable, hp] using hlen))
      · cases types with
        | nil => simp [Parameter.isInstantiable, hp] at hlen
        | cons type types =>
          simp only [fill, hp, if_false, bind_eq_ok_iff] at hfill
          obtain ⟨rest, hrest, ⟨⟩⟩ := hfill
          exact .supplied hp (ih hrest (by simpa [Parameter.isInstantiable, hp] using hlen))

theorem Filled.mem (h : Filled ps types arguments) {a : String} (ha : a ∈ arguments) :
    a = "'static" ∨ a ∈ types := by
  induction h with
  | nil => cases ha
  | lifetime _ _ ih =>
    rcases List.mem_cons.mp ha with rfl | ha
    · exact Or.inl rfl
    · exact ih ha
  | supplied _ _ ih =>
    rcases List.mem_cons.mp ha with rfl | ha
    · exact Or.inr List.mem_cons_self
    · exact (ih ha).imp_right (List.mem_cons_of_mem _)

end Generics

namespace Target
variable {t : Target} {type : String} {types : List String}

/-- A target with an argument for each of its parameters. -/
def IsConcrete (t : Target) (types : List String) (type : String) : Prop :=
  ∃ arguments, Generics.Filled t.generics.parameters types arguments ∧
    type = t.name ++ t.generics.bracketed arguments

theorem typeWith_eq_ok_iff (hlen : types.length = t.generics.instantiable.length) :
    t.typeWith (some types) = .ok type ↔ t.IsConcrete types type := by
  simp only [typeWith, Generics.instantiate, bind_eq_ok_iff, pure, Except.pure, Except.ok.injEq]
  constructor
  · rintro ⟨_, ⟨arguments, hfill, rfl⟩, rfl⟩
    exact ⟨arguments, Generics.filled_iff.mpr ⟨hfill, hlen⟩, rfl⟩
  · rintro ⟨arguments, hfilled, rfl⟩
    exact ⟨_, ⟨arguments, (Generics.filled_iff.mp hfilled).1, rfl⟩, rfl⟩

end Target

namespace Instantiation
variable {given : Value} {types : List String}

theorem isTrimmed_of_ofTypeValue {s : String} (h : ofTypeValue given = .ok s) :
    s.toList ≠ [] ∧ Text.IsTrimmed s.toList := by
  unfold ofTypeValue at h
  split at h
  · dsimp only at h
    split at h
    · rename_i htype
      cases h
      refine ⟨fun hnil => ?_, ?_⟩
      · rw [hnil] at htype
        cases htype
      · rw [Text.strip, String.toList_ofList]
        exact Text.isTrimmed_trim _
    · cases h
  · cases h

theorem isTrimmed_of_ofValue {expected : Nat} (h : ofValue expected given = .ok types) :
    ∀ s ∈ types, s.toList ≠ [] ∧ Text.IsTrimmed s.toList := by
  unfold ofValue at h
  simp only [bind_eq_ok_iff] at h
  obtain ⟨values, _, read, hread, h⟩ := h
  split at h
  · cases h
  split at h
  · cases h
  cases h
  intro s hs
  obtain ⟨v, _, hv⟩ := exists_of_mem_mapM hread hs
  exact isTrimmed_of_ofTypeValue hv

end Instantiation

namespace Target
open Text
variable {t : Target} {raw : Value} {rows : List (List String)} {types : List String}

theorem isTrimmed_static : IsTrimmed "'static".toList := by
  have hall : "'static".toList.all (!isBlank ·) = true := by decide
  exact isTrimmed_of_forall fun c hc => by simpa using List.all_eq_true.mp hall c hc

/-- An accepted instantiation has one type for each parameter that takes one. The argument list
that is written with it is split into these arguments exactly when they keep apart. -/
theorem type_splits_iff (h : Instantiation.parse raw t.generics = .ok rows)
    (htypes : types ∈ rows) :
    ∃ arguments, Generics.Filled t.generics.parameters types arguments ∧
      t.typeWith (some types) = .ok (t.name ++ "<" ++ commaList arguments ++ ">") ∧
      (splitTopLevel (commaList arguments) = arguments ↔ KeepsApart arguments) := by
  obtain ⟨given, hgiven⟩ := Instantiation.exists_ofValue_of_parse h htypes
  have hlen := Instantiation.length_of_ofValue hgiven
  have hsome : t.generics.instantiable.length ≠ 0 := Instantiation.ne_zero_of_ofValue hgiven
  obtain ⟨type, htype⟩ := typeWith_isOk_iff.mpr hlen.ge
  obtain ⟨arguments, hfilled, rfl⟩ := (typeWith_eq_ok_iff hlen).mp htype
  have hparameters : t.generics.parameters ≠ [] := by
    intro hnil
    simp [Generics.instantiable, hnil] at hsome
  have htrimmed : ∀ s ∈ arguments, s.toList ≠ [] ∧ IsTrimmed s.toList := by
    intro s hs
    rcases hfilled.mem hs with rfl | hs
    · exact ⟨by decide, isTrimmed_static⟩
    · exact Instantiation.isTrimmed_of_ofValue hgiven s hs
  refine ⟨arguments, hfilled, ?_, splitTopLevel_commaList_iff htrimmed⟩
  rw [htype]
  simp [Generics.bracketed, hparameters, String.append_assoc, toString]

/-- Brackets of all three kinds keep the commas inside them. -/
theorem type_splits_of_map :
    let t : Target := { name := "W", generics :=
      ⟨[⟨.lifetime, "'a", none⟩, ⟨.type, "T", none⟩, ⟨.const, "N", some "usize"⟩]⟩ }
    let raw : Value := .list [.list [.text " Map<(u8, i8), [u8; 4]> ", .text "3"]]
    let types := ["Map<(u8, i8), [u8; 4]>", "3"]
    Instantiation.parse raw t.generics = .ok [types] ∧
      t.typeWith (some types) = .ok "W<'static, Map<(u8, i8), [u8; 4]>, 3>" ∧
      splitTopLevel "'static, Map<(u8, i8), [u8; 4]>, 3" =
        ["'static", "Map<(u8, i8), [u8; 4]>", "3"] := by
  intro t raw types
  have hparse : Instantiation.parse raw t.generics = .ok [types] :=
    toOption_eq_some_iff.mp (by decide +kernel)
  obtain ⟨arguments, hfilled, htype, hsplit⟩ := type_splits_iff hparse List.mem_cons_self
  obtain rfl : ["'static", "Map<(u8, i8), [u8; 4]>", "3"] = arguments :=
    Except.ok.inj (Generics.filled_iff.mp hfilled).1
  have hdepth : ∀ p ∈ ["'static", "Map<(u8, i8), [u8; 4]>", "3"].map String.toList,
      wholeDepth? 0 none p = some 0 := by decide +kernel
  exact ⟨hparse, htype, hsplit.mpr (keepsApart_iff.mpr (isSeparable_of_forall hdepth))⟩

/-- Two types in one text count as one type. -/
theorem two_types_taken_for_one :
    let t : Target := { name := "W", generics := ⟨[⟨.type, "T", none⟩]⟩ }
    Instantiation.parse (.list [.list [.text "i32, u8"]]) t.generics = .ok [["i32, u8"]] ∧
      t.typeWith (some ["i32, u8"]) = .ok "W<i32, u8>" ∧
      splitTopLevel "i32, u8" = ["i32", "u8"] ∧
      ¬ Generics.Filled t.generics.parameters ["i32, u8"] ["i32", "u8"] := by
  intro t
  refine ⟨toOption_eq_some_iff.mp (by decide +kernel), rfl, by decide +kernel, fun hfilled => ?_⟩
  have hsame : ["i32, u8"] = ["i32", "u8"] := Except.ok.inj (Generics.filled_iff.mp hfilled).1
  cases congrArg List.length hsame

end Target
end StructureDerive
