import Mathlib.Data.List.MinMax
import StructureDerive.Catalog.Standard
import StructureDerive.Proofs.EditDistance
import StructureDerive.Proofs.Expansion

/-! # Suggestions for unknown kinds

The search for a suggestion goes through the kinds once and keeps the best one so far. It ends with
the first kind that has the least edit distance to the unknown name, both in lower case, so that only
a strictly nearer kind behind it can take its place.
-/
namespace StructureDerive.Catalog
variable {c : Catalog} {name kind : String} {known new : List String}

/-- The least number of edits between two names in lower case. -/
def nameDistance (name kind : String) : Nat :=
  Text.distance (Text.lower name).toList (Text.lower kind).toList

/-- The kinds before it are farther from the name, and none behind it is nearer. -/
def IsFirstClosest (name : String) (known : List String) (kind : String) : Prop :=
  ∃ before after, known = before ++ kind :: after ∧
    (∀ b ∈ before, nameDistance name kind < nameDistance name b) ∧
    ∀ a ∈ after, nameDistance name kind ≤ nameDistance name a

theorem IsFirstClosest.mem (h : IsFirstClosest name known kind) : kind ∈ known := by
  obtain ⟨before, after, rfl, _⟩ := h
  simp

theorem IsFirstClosest.le (h : IsFirstClosest name known kind) {other : String}
    (hother : other ∈ known) : nameDistance name kind ≤ nameDistance name other := by
  obtain ⟨before, after, rfl, hbefore, hafter⟩ := h
  rcases List.mem_append.mp hother with hother | hother
  · exact (hbefore other hother).le
  · rcases List.mem_cons.mp hother with rfl | hother
    · exact le_rfl
    · exact hafter other hother

/-- The first place of a least element in a list, read as a cut of the list. -/
theorem argmin_eq_some_iff_isFirstClosest :
    known.argmin (nameDistance name) = some kind ↔ IsFirstClosest name known kind := by
  rw [List.argmin_eq_some_iff]
  constructor
  · rintro ⟨hmem, hle, hfirst⟩
    obtain ⟨before, after, rfl, hnot⟩ := List.eq_append_cons_of_mem hmem
    have hplace : (before ++ kind :: after).idxOf kind = before.length := by
      rw [List.idxOf_append_of_notMem hnot, List.idxOf_cons_self, Nat.add_zero]
    refine ⟨before, after, rfl, fun b hb => ?_, fun a ha => hle a (by simp [ha])⟩
    by_contra hnear
    have hindex := hfirst b (by simp [hb]) (not_lt.mp hnear)
    have hearlier : (before ++ kind :: after).idxOf b < before.length := by
      rw [List.idxOf_append_of_mem hb]
      exact List.idxOf_lt_length_of_mem hb
    omega
  · intro h
    refine ⟨h.mem, fun other hother => h.le hother, ?_⟩
    obtain ⟨before, after, rfl, hbefore, _⟩ := h
    have hnot : kind ∉ before := fun hmem => lt_irrefl _ (hbefore kind hmem)
    intro other _ hnear
    have hother : other ∉ before := fun hmem => absurd hnear (not_le.mpr (hbefore other hmem))
    rw [List.idxOf_append_of_notMem hnot, List.idxOf_append_of_notMem hother,
      List.idxOf_cons_self]
    omega

/-- A kind as the search keeps it. -/
def withDistance (name kind : String) : Nat × String := (nameDistance name kind, kind)

theorem nearer_map (name : String) (best : Option String) (kind : String) :
    nearer name (best.map (withDistance name)) kind =
      (List.argAux (fun b a => nameDistance name b < nameDistance name a) best kind).map
        (withDistance name) := by
  have hdistance : ∀ kind, Text.editDistance (Text.lower name) (Text.lower kind) =
      nameDistance name kind := fun kind => Text.editDistance_eq_distance _ _
  cases best with
  | none => simp [nearer, List.argAux, withDistance, hdistance]
  | some found =>
    simp only [nearer, List.argAux, Option.map_some, withDistance, hdistance]
    split <;> rfl

/-- The search keeps a kind together with its distance, so it is the search for the kind alone. -/
theorem foldl_nearer_eq_map (name : String) (known : List String) :
    known.foldl (nearer name) none =
      (known.argmin (nameDistance name)).map (withDistance name) := by
  have hfold : known.foldl (nearer name) ((none : Option String).map (withDistance name)) = _ :=
    List.foldl_hom _ (nearer_map name)
  exact hfold

theorem closest_eq_argmin (c : Catalog) (name : String) :
    c.closest name = c.kinds.argmin (nameDistance name) := by
  have hdrop : Prod.snd ∘ withDistance name = id := rfl
  rw [closest, foldl_nearer_eq_map, Option.map_map, hdrop, Option.map_id, id]

theorem closest_eq_some_iff : c.closest name = some kind ↔ IsFirstClosest name c.kinds kind := by
  rw [closest_eq_argmin, argmin_eq_some_iff_isFirstClosest]

theorem closest_eq_none_iff : c.closest name = none ↔ c.entries = [] := by
  rw [closest_eq_argmin, List.argmin_eq_none, kinds, List.map_eq_nil_iff]

/-- Further kinds leave the suggestion as it is unless one of them is strictly nearer. -/
theorem IsFirstClosest.append_iff (h : IsFirstClosest name known kind) :
    IsFirstClosest name (known ++ new) kind ↔
      ∀ other ∈ new, nameDistance name kind ≤ nameDistance name other := by
  constructor
  · intro hall other hother
    exact hall.le (List.mem_append_right known hother)
  · intro hnew
    obtain ⟨before, after, rfl, hbefore, hafter⟩ := h
    refine ⟨before, after ++ new, by simp, hbefore, fun a ha => ?_⟩
    rcases List.mem_append.mp ha with ha | ha
    · exact hafter a ha
    · exact hnew a ha

theorem lookup_of_not_mem (h : name ∉ c.kinds) :
    c.lookup name = .error (.unknownKind name (c.closest name)) := by
  refine lookup_eq_error_iff.mpr ⟨?_, rfl⟩
  rw [find?, ofKind?, List.find?_eq_none]
  intro e he hkind
  have hmem := List.mem_map_of_mem (f := (·.kind)) (List.mem_reverse.mp he)
  exact h (of_decide_eq_true hkind ▸ hmem)

theorem kinds_append (c : Catalog) (more : List Entry) :
    kinds ⟨c.entries ++ more⟩ = c.kinds ++ more.map (·.kind) := List.map_append

/-- An unknown name is answered with the first kind of the catalog that is nearest to it, and with
none only if the catalog is empty. Kinds that are added behind change the answer only if one of them
is strictly nearer. -/
theorem lookup_suggests_first_closest (h : name ∉ c.kinds) :
    (∀ kind, IsLeast {n | Text.Edits n (Text.lower name).toList (Text.lower kind).toList}
      (nameDistance name kind)) ∧
    ∃ suggestion, c.lookup name = .error (.unknownKind name suggestion) ∧
      (suggestion = none ↔ c.entries = []) ∧
      (∀ kind, suggestion = some kind ↔ IsFirstClosest name c.kinds kind) ∧
      ∀ kind, suggestion = some kind → ∀ more : List Entry, name ∉ more.map (·.kind) →
        ∃ suggestion', lookup ⟨c.entries ++ more⟩ name = .error (.unknownKind name suggestion') ∧
          (suggestion' ≠ suggestion ↔
            ∃ e ∈ more, nameDistance name e.kind < nameDistance name kind) := by
  refine ⟨fun kind => Text.isLeast_distance _ _, c.closest name, lookup_of_not_mem h,
    closest_eq_none_iff, fun kind => closest_eq_some_iff, fun kind hkind more hmore => ?_⟩
  have hunknown : name ∉ kinds ⟨c.entries ++ more⟩ := by
    rw [kinds_append, List.mem_append]
    rintro (hold | hnew)
    · exact h hold
    · exact hmore hnew
  refine ⟨_, lookup_of_not_mem hunknown, ?_⟩
  have hfirst := closest_eq_some_iff.mp hkind
  rw [hkind, ne_eq, closest_eq_some_iff, kinds_append, hfirst.append_iff]
  simp

/-- `Loop` and `Group` are equally near, and a nearer kind takes the place of the first of them. -/
theorem lookup_suggests_loop :
    let crop : Entry := { kind := "Crop", arity := 1 }
    let pop : Entry := { kind := "Pop", arity := 1 }
    "Gop" ∉ standard.kinds ∧ standard.lookup "Gop" = .error (.unknownKind "Gop" (some "Loop")) ∧
      nameDistance "Gop" "Loop" = nameDistance "Gop" "Group" ∧
      IsFirstClosest "Gop" standard.kinds "Loop" ∧
      (∃ suggestion, lookup ⟨standard.entries ++ [crop]⟩ "Gop" =
        .error (.unknownKind "Gop" suggestion) ∧ suggestion = some "Loop") ∧
      ∃ suggestion, lookup ⟨standard.entries ++ [pop]⟩ "Gop" =
        .error (.unknownKind "Gop" suggestion) ∧ suggestion ≠ some "Loop" := by
  intro crop pop
  have hunknown : "Gop" ∉ standard.kinds := by decide
  have hclosest : standard.closest "Gop" = some "Loop" := by decide +kernel
  have hloop : standard.lookup "Gop" = .error (.unknownKind "Gop" (some "Loop")) := by
    rw [lookup_of_not_mem hunknown, hclosest]
  have hdistance : ∀ kind, nameDistance "Gop" kind =
      Text.editDistance (Text.lower "Gop") (Text.lower kind) :=
    fun kind => (Text.editDistance_eq_distance _ _).symm
  obtain ⟨_, suggestion, hlookup, _, hfirst, hmore⟩ := lookup_suggests_first_closest hunknown
  obtain ⟨_, rfl⟩ := Cause.unknownKind.inj (Except.error.inj (hloop.symm.trans hlookup))
  obtain ⟨near, hnear, hkept⟩ := hmore "Loop" rfl [crop] (by decide)
  obtain ⟨nearer, hnearer, hchanged⟩ := hmore "Loop" rfl [pop] (by decide)
  refine ⟨hunknown, hloop, ?_, (hfirst "Loop").mp rfl, ⟨near, hnear, ?_⟩, nearer, hnearer, ?_⟩
  · rw [hdistance, hdistance]
    decide +kernel
  · rw [← not_ne_iff, hkept]
    simp only [hdistance]
    decide +kernel
  · rw [hchanged]
    simp only [hdistance]
    decide +kernel

end StructureDerive.Catalog
