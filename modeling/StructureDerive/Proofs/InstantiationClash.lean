import StructureDerive.Host.Terminal
import StructureDerive.Proofs.TestMatrix

/-! # Clashes between instantiations

The cells of the matrix are the laws of the obligations, each under every instantiation. Where each
instantiation alone gives tests, two cells of one name differ in their instantiations, unless one
instantiation is listed twice. The first clash is then one between the copies, and the cause names
one obligation twice in place of the instantiations.
-/
namespace StructureDerive
open Outcome

namespace Outcome
variable {ε α β : Type}

theorem exists_ok_of_isSome {x : Except ε α} (h : x.toOption.isSome) : ∃ a, x = .ok a := by
  obtain ⟨a, ha⟩ := Option.isSome_iff_exists.mp h
  exact ⟨a, toOption_eq_some_iff.mp ha⟩

theorem exists_error_of_isNone {x : Except ε α} (h : x.toOption.isNone) : ∃ e, x = .error e := by
  cases x with
  | ok a => cases h
  | error e => exact ⟨e, rfl⟩

/-- The first member with the image of an earlier member is `y`, and the earlier member is `x`. -/
structure IsFirstRepeat (f : α → β) (xs before : List α) (x y : α) : Prop where
  split : ∃ after, xs = before ++ y :: after
  distinct : (before.map f).Nodup
  earlier : x ∈ before
  same : f x = f y

theorem IsFirstRepeat.length_le {f : α → β} {xs before before' : List α} {x x' y y' : α}
    (h : IsFirstRepeat f xs before x y) (h' : IsFirstRepeat f xs before' x' y') :
    before'.length ≤ before.length := by
  obtain ⟨after, hxs⟩ := h.split
  obtain ⟨after', hxs'⟩ := h'.split
  refine Nat.le_of_not_lt fun hlt => ?_
  -- the second stretch would hold both members of the first pair
  have hprefix : before ++ [y] <+: before' := by
    refine List.prefix_of_prefix_length_le ⟨after, ?_⟩ ⟨y' :: after', hxs'.symm⟩ ?_
    · simp [hxs]
    · rw [List.length_append, List.length_singleton]
      exact hlt
  obtain ⟨rest, hrest⟩ := hprefix
  have hnodup := h'.distinct
  rw [← hrest, List.append_assoc, List.map_append] at hnodup
  have hx : f x ∈ before.map f := List.mem_map_of_mem h.earlier
  have hy : f x ∈ ([y] ++ rest).map f := by simp [h.same]
  exact List.disjoint_of_nodup_append hnodup hx hy

theorem IsFirstRepeat.unique {f : α → β} {xs before before' : List α} {x x' y y' : α}
    (h : IsFirstRepeat f xs before x y) (h' : IsFirstRepeat f xs before' x' y') :
    x = x' ∧ y = y' := by
  obtain ⟨after, hxs⟩ := h.split
  obtain ⟨after', hxs'⟩ := h'.split
  have hlength : before.length = before'.length := le_antisymm (h'.length_le h) (h.length_le h')
  obtain ⟨rfl, hrest⟩ := List.append_inj (hxs.symm.trans hxs') hlength
  obtain ⟨rfl, _⟩ := List.cons.inj hrest
  have himage : f x = f x' := h.same.trans h'.same.symm
  exact ⟨List.inj_on_of_nodup_map h.distinct h.earlier h'.earlier himage, rfl⟩

theorem exists_of_flatMap_eq_append_cons {f : α → List β} {xs : List α} {before after : List β}
    {y : β} (h : xs.flatMap f = before ++ y :: after) :
    ∃ front x back start rest, xs = front ++ x :: back ∧ f x = start ++ y :: rest ∧
      before = front.flatMap f ++ start := by
  induction xs generalizing before with
  | nil => simp at h
  | cons x xs ih =>
    have hfurther : ∀ start, xs.flatMap f = start ++ y :: after → before = f x ++ start →
        ∃ front z back start rest, x :: xs = front ++ z :: back ∧ f z = start ++ y :: rest ∧
          before = front.flatMap f ++ start := by
      rintro start hstart rfl
      obtain ⟨front, z, back, start, rest, rfl, hz, rfl⟩ := ih hstart
      exact ⟨x :: front, z, back, start, rest, rfl, hz, by simp⟩
    rw [List.flatMap_cons] at h
    rcases List.append_eq_append_iff.mp h with ⟨start, hbefore, hstart⟩ | ⟨start, hx, hafter⟩
    · exact hfurther start hstart hbefore
    · cases start with
      | nil => exact hfurther [] hafter.symm (by simpa using hx.symm)
      | cons z start =>
        obtain ⟨rfl, _⟩ := List.cons.inj hafter
        exact ⟨[], x, xs, before, start, rfl, hx, rfl⟩

/-- A step keeps an invariant, and the failures that it may have are those allowed. -/
structure Keeps (invariant : α → Prop) (allowed : ε → Prop) (x : Except ε α) : Prop where
  ok : ∀ a, x = .ok a → invariant a
  error : ∀ e, x = .error e → allowed e

theorem Keeps.foldlM {invariant : α → Prop} {allowed : ε → Prop} {f : α → β → Except ε α}
    {bs : List β} (hf : ∀ a, ∀ b ∈ bs, invariant a → Keeps invariant allowed (f a b)) {a : α}
    (ha : invariant a) : Keeps invariant allowed (bs.foldlM f a) := by
  induction bs generalizing a with
  | nil =>
    constructor
    · rintro _ ⟨⟩
      exact ha
    · intro e h
      cases h
  | cons b bs ih =>
    have hb := hf a b List.mem_cons_self ha
    have hbs : ∀ next, f a b = .ok next → Keeps invariant allowed (bs.foldlM f next) :=
      fun next hnext => ih (fun a d hd => hf a d (List.mem_cons_of_mem b hd)) (hb.ok next hnext)
    constructor
    · intro out h
      obtain ⟨next, hnext, h⟩ := bind_eq_ok_iff.mp ((List.foldlM_cons ..).symm.trans h)
      exact (hbs next hnext).ok out h
    · intro e h
      rcases bind_eq_error_iff.mp ((List.foldlM_cons ..).symm.trans h) with h | ⟨next, hnext, h⟩
      · exact hb.error e h
      · exact (hbs next hnext).error e h

end Outcome

namespace Cell

/-- The same law of the same obligation, under an instantiation. -/
def under (x : Cell) (types : List String) : Cell := { x with row := some types }

@[simp] theorem types_under (x : Cell) (types : List String) : (x.under types).types = types := rfl

variable {c : Catalog} {os : List Obligation} {instantiations : List (List String)}

theorem cellsOf_eq_flatMap (hne : instantiations ≠ []) (o : Obligation) (e : Entry) :
    cellsOf instantiations o e = (cellsOf [] o e).flatMap fun x => instantiations.map x.under := by
  have hrows : TestPlan.rows instantiations = instantiations.map some := by
    simp [TestPlan.rows, hne]
  have hnone : TestPlan.rows [] = [none] := rfl
  rw [cellsOf, cellsOf, hrows, hnone, List.flatMap_assoc]
  congr 1
  funext law
  simp [under, Function.comp_def]

theorem all_eq_flatMap (hne : instantiations ≠ []) : all c os instantiations =
    (all c os []).flatMap fun x => instantiations.map x.under := by
  rw [all, all, List.flatMap_assoc]
  congr 1
  funext o
  cases c.find? o.kind with
  | none => rfl
  | some e => exact cellsOf_eq_flatMap hne o e

theorem all_singleton (types : List String) :
    all c os [types] = (all c os []).map fun x => x.under types := by
  rw [all_eq_flatMap (List.cons_ne_nil _ _)]
  exact List.map_eq_flatMap.symm

end Cell

namespace TestPlan
variable {p : TestPlan} {c : Catalog} {os : List Obligation} {x y : Cell} {cells : List Cell}
variable {s t : List String} {instantiations : List (List String)} {failure : Failure}

/-- What an instantiation adds to the name of a test. -/
def rowName (types : List String) : String := "_".intercalate (types.map Text.identifier)

/-- The first instantiation whose name an earlier one has is itself listed earlier. -/
def RepeatsItself (instantiations : List (List String)) : Prop :=
  ∃ before types, IsFirstRepeat rowName instantiations before types types

/-- The part of a test name that comes from the instantiation. -/
def nameMiddle (types : List String) : String :=
  if rowName types = "" then "" else "_" ++ rowName types

theorem nameMiddle_eq_iff : nameMiddle s = nameMiddle t ↔ rowName s = rowName t := by
  have hne : ∀ name : String, "_" ++ name ≠ "" := by simp
  unfold nameMiddle
  split
  · rename_i hs
    split
    · rename_i ht
      simp [hs, ht]
    · rename_i ht
      exact iff_of_false (hne _).symm (hs ▸ Ne.symm ht)
  · rename_i hs
    split
    · rename_i ht
      exact iff_of_false (hne _) (ht ▸ hs)
    · exact String.append_right_inj _

theorem nameAt_under_iff : p.nameAt (x.under s) = p.nameAt (x.under t) ↔ rowName s = rowName t := by
  have hname : ∀ types, p.nameAt (x.under types) = x.law.variant p.approx ++ "_for_" ++
      Text.identifier p.target.name ++ nameMiddle types ++ ("_as_" ++ x.obligation.kind ++
        String.join (x.obligation.operators.map fun op => "_" ++ Text.identifier op)) := by
    intro types
    simp only [nameAt, Target.testName, Cell.types_under, toString, String.append_assoc]
    rfl
  rw [hname, hname, String.append_left_inj, String.append_right_inj, nameMiddle_eq_iff]

theorem contains_of_matrix [Host] {tests : List LawTest}
    (h : p.matrix c os instantiations = .ok tests) :
    ∀ o ∈ os, c.contains o.kind := by
  unfold matrix at h
  generalize [] = start at h
  induction os generalizing start with
  | nil => simp
  | cons o os ih =>
    obtain ⟨next, hnext, h⟩ := bind_eq_ok_iff.mp ((List.foldlM_cons ..).symm.trans h)
    obtain ⟨e, he, _⟩ := bind_eq_ok_iff.mp hnext
    have hlookup : c.lookup o.kind = .ok e := liftM_cause_eq_ok_iff.mp he
    have hfind : c.find? o.kind = some e := Catalog.lookup_eq_ok_iff.mp hlookup
    have hkind : c.contains o.kind := Option.isSome_iff_exists.mpr ⟨e, hfind⟩
    exact List.forall_mem_cons.mpr ⟨hkind, ih next h⟩

theorem nodup_names_under_iff : ((instantiations.map x.under).map p.nameAt).Nodup ↔
    (instantiations.map rowName).Nodup := by
  simp only [List.Nodup, List.pairwise_map, ne_eq, nameAt_under_iff]

/-- The copies of an instantiation clash under the first law of the matrix. -/
theorem exists_isFirstRepeat (h : RepeatsItself instantiations)
    (hcells : Cell.all c os [] = x :: cells) :
    ∃ before y, IsFirstRepeat p.nameAt (Cell.all c os instantiations) before y y := by
  obtain ⟨before, types, hfirst⟩ := h
  obtain ⟨after, rfl⟩ := hfirst.split
  refine ⟨before.map x.under, x.under types, ⟨?_, ?_, ?_, rfl⟩⟩
  · rw [Cell.all_eq_flatMap (by simp), hcells, List.flatMap_cons, List.map_append, List.map_cons,
      List.append_assoc]
    exact ⟨_, rfl⟩
  · exact nodup_names_under_iff.mpr hfirst.distinct
  · exact List.mem_map_of_mem hfirst.earlier

/-- A clash under one instantiation is a clash between two of its copies, since the instantiation
alone gives none. -/
theorem repeatsItself_of_isFirstRepeat (hne : instantiations ≠ [])
    (halone : ∀ types ∈ instantiations, ((Cell.all c os [types]).map p.nameAt).Nodup)
    (h : IsFirstRepeat p.nameAt (Cell.all c os instantiations) cells x y)
    (htypes : x.types = y.types) : RepeatsItself instantiations := by
  obtain ⟨after, hsplit⟩ := h.split
  rw [Cell.all_eq_flatMap hne] at hsplit
  obtain ⟨front, z, back, start, rest, hall, hz, rfl⟩ := exists_of_flatMap_eq_append_cons hsplit
  obtain ⟨before, others, rfl, rfl, hothers⟩ := List.map_eq_append_iff.mp hz
  obtain ⟨types, others, rfl, rfl, rfl⟩ := List.map_eq_cons_iff.mp hothers
  rcases List.mem_append.mp h.earlier with hx | hx
  · obtain ⟨z', hz', hx⟩ := List.mem_flatMap.mp hx
    obtain ⟨types', _, rfl⟩ := List.mem_map.mp hx
    obtain rfl : types' = types := htypes
    have hnodup := halone types' (by simp)
    rw [Cell.all_singleton, hall, List.map_append, List.map_append] at hnodup
    have hfront : p.nameAt (z'.under types') ∈ (front.map fun x => x.under types').map p.nameAt :=
      List.mem_map_of_mem (List.mem_map_of_mem hz')
    have hback : p.nameAt (z'.under types') ∈
        ((z :: back).map fun x => x.under types').map p.nameAt := by
      rw [h.same]
      exact List.mem_map_of_mem (List.mem_map_of_mem List.mem_cons_self)
    exact absurd hback (List.disjoint_of_nodup_append hnodup hfront)
  · obtain ⟨types', htypes', rfl⟩ := List.mem_map.mp hx
    obtain rfl : types' = types := htypes
    have hdistinct := h.distinct
    rw [List.map_append] at hdistinct
    exact ⟨before, types', ⟨others, rfl⟩, nodup_names_under_iff.mp hdistinct.of_append_right,
      htypes', rfl⟩

theorem types_mem_of_mem_all (hne : instantiations ≠ []) (hx : x ∈ Cell.all c os instantiations) :
    x.row = some x.types ∧ x.types ∈ instantiations := by
  rw [Cell.all_eq_flatMap hne] at hx
  obtain ⟨z, _, hx⟩ := List.mem_flatMap.mp hx
  obtain ⟨types, htypes, rfl⟩ := List.mem_map.mp hx
  exact ⟨rfl, htypes⟩

/-- A cell under an instantiation that alone gives tests has a type for its test. -/
theorem fills_of_matrix [Host] {tests : List LawTest} (hx : x ∈ Cell.all c os instantiations)
    (hrow : x.row = some t) (h : p.matrix c os [t] = .ok tests) : p.Fills x.row := by
  obtain ⟨hobligation, hentry, hlaw, _⟩ := Cell.mem_all_iff.mp hx
  have halone : x ∈ Cell.all c os [t] :=
    Cell.mem_all_iff.mpr ⟨hobligation, hentry, hlaw, by simp [rows, hrow]⟩
  have htests := (areTestsAt_of_matrix (contains_of_matrix h) h).1
  obtain ⟨_, _, htest⟩ := exists_of_mem_forall₂ htests.flip halone
  obtain ⟨type, htype, _⟩ := htest.calls
  rintro _ hsome
  obtain rfl := Option.some.inj (hrow.symm.trans hsome)
  rw [hrow] at htype
  exact Target.typeWith_isOk_iff.mp ⟨type, htype⟩

theorem exists_clash_of_matrix [Host] (hne : instantiations ≠ [])
    (halone : ∀ types ∈ instantiations, ∃ tests, p.matrix c os [types] = .ok tests)
    (hfail : p.matrix c os instantiations = .error failure) :
    ∃ before x y cause, IsFirstRepeat p.nameAt (Cell.all c os instantiations) before x y ∧
      p.IsClash x y cause ∧ failure = .cause cause := by
  obtain ⟨types, htypes⟩ := List.exists_mem_of_ne_nil instantiations hne
  obtain ⟨_, hone⟩ := halone types htypes
  rw [matrix_eq_foldlM (contains_of_matrix hone)] at hfail
  have hfills : ∀ x ∈ Cell.all c os instantiations, p.Fills x.row := by
    intro x hx
    obtain ⟨hrow, hmem⟩ := types_mem_of_mem_all hne hx
    obtain ⟨_, htests⟩ := halone x.types hmem
    exact fills_of_matrix hx hrow htests
  obtain ⟨cause, ⟨before, y, after, hsplit, hdistinct, x, hx, hsame, hclash⟩, rfl⟩ :=
    foldlM_addCell_eq_error hfills .nil List.nodup_nil hfail
  exact ⟨before, x, y, cause, ⟨⟨after, hsplit⟩, hdistinct, hx, hsame⟩, hclash, rfl⟩

/-- No failure is put down to the instantiations, and no test has types. -/
abbrev KeepsUntyped (x : Except Failure (List LawTest)) : Prop :=
  Keeps (fun tests => ∀ t ∈ tests, t.types = [])
    (fun failure => ∀ issue, failure ≠ .cause (.malformedInstantiation issue)) x

section
variable [Host]

theorem keepsUntyped_addRow {tests : List LawTest} (o : Obligation) (e : Entry) (law : Law)
    (htests : ∀ t ∈ tests, t.types = []) : KeepsUntyped (p.addRow o e law tests none) := by
  have hfills : p.Fills none := fun _ h => by cases h
  obtain ⟨t, ht⟩ : ∃ t, p.test o e law none = .ok t := test_isOk o e law hfills
  have htypes : t.types = [] := (isTestAt_of_test (x := ⟨o, e, law, none⟩) ht).types
  have hadd : p.addRow o e law tests none = liftM (p.add tests t) := by
    rw [addRow, ht]
    rfl
  constructor
  · intro out hout
    rw [hadd, liftM_cause_eq_ok_iff] at hout
    obtain ⟨_, rfl⟩ := add_eq_ok_iff.mp hout
    intro s hs
    rcases List.mem_append.mp hs with hs | hs
    · exact htests s hs
    · rw [List.mem_singleton.mp hs, htypes]
  · intro failure hfailure issue
    rw [hadd] at hfailure
    obtain ⟨cause, hcause, rfl⟩ := mapError_eq_error_iff.mp hfailure
    obtain ⟨s, hs, _, rfl⟩ := add_eq_error hcause
    have hsame : s.types = t.types := (htests s hs).trans htypes.symm
    rw [collision, if_neg (not_not.mpr hsame)]
    intro h
    cases h

theorem keepsUntyped_addObligation {tests : List LawTest} (o : Obligation)
    (htests : ∀ t ∈ tests, t.types = []) : KeepsUntyped (p.addObligation c [] tests o) := by
  unfold addObligation
  cases hlookup : c.lookup o.kind with
  | error cause =>
    obtain ⟨_, rfl⟩ := Catalog.lookup_eq_error_iff.mp hlookup
    constructor
    · rintro _ ⟨⟩
    · rintro _ ⟨⟩ issue h
      cases h
  | ok e =>
    refine Keeps.foldlM (fun tests law _ htests => ?_) htests
    refine Keeps.foldlM (fun tests row hrow htests => ?_) htests
    obtain rfl : row = none := by simpa [rows] using hrow
    exact keepsUntyped_addRow o e law htests

theorem not_malformed_of_no_instantiations (h : p.matrix c os [] = .error failure)
    (issue : InstantiationIssue) : failure ≠ .cause (.malformedInstantiation issue) := by
  have hmatrix : KeepsUntyped (p.matrix c os []) :=
    Keeps.foldlM (fun tests o _ htests => keepsUntyped_addObligation o htests) (by simp)
  exact hmatrix.error failure h issue

theorem malformed_of_not_repeatsItself (hne : instantiations ≠ [])
    (halone : ∀ types ∈ instantiations, ∃ tests, p.matrix c os [types] = .ok tests)
    (hfail : p.matrix c os instantiations = .error failure)
    (hrepeats : ¬ RepeatsItself instantiations) :
    ∃ first ∈ instantiations, ∃ second ∈ instantiations, first ≠ second ∧ ∃ name,
      failure = .cause (.malformedInstantiation
        (.sameTestName first second p.target.name name)) := by
  obtain ⟨before, x, y, cause, hfirst, hclash, rfl⟩ := exists_clash_of_matrix hne halone hfail
  have hnodup : ∀ types ∈ instantiations, ((Cell.all c os [types]).map p.nameAt).Nodup := by
    intro types htypes
    obtain ⟨_, htests⟩ := halone types htypes
    exact (areTestsAt_of_matrix (contains_of_matrix htests) htests).2
  obtain ⟨after, hsplit⟩ := hfirst.split
  have hx : x ∈ Cell.all c os instantiations := by
    rw [hsplit]
    exact List.mem_append_left _ hfirst.earlier
  have hy : y ∈ Cell.all c os instantiations := by simp [hsplit]
  cases hclash with
  | rows hdiffer =>
    exact ⟨x.types, (types_mem_of_mem_all hne hx).2, y.types, (types_mem_of_mem_all hne hy).2,
      hdiffer, p.nameAt y, rfl⟩
  | operators hsame =>
    exact absurd (repeatsItself_of_isFirstRepeat hne hnodup hfirst hsame) hrepeats

theorem declaration_of_repeatsItself
    (halone : ∀ types ∈ instantiations, ∃ tests, p.matrix c os [types] = .ok tests)
    (hfail : p.matrix c os instantiations = .error failure)
    (hrepeats : RepeatsItself instantiations) : ∃ label name,
      failure = .cause (.declaration (.sameTestName label label p.target.name name)) := by
  have hne : instantiations ≠ [] := by
    obtain ⟨_, _, hfirst⟩ := hrepeats
    obtain ⟨_, rfl⟩ := hfirst.split
    simp
  obtain ⟨before, x, y, cause, hfirst, hclash, rfl⟩ := exists_clash_of_matrix hne halone hfail
  cases hcells : Cell.all c os [] with
  | nil =>
    obtain ⟨after, hsplit⟩ := hfirst.split
    rw [Cell.all_eq_flatMap hne, hcells] at hsplit
    simp at hsplit
  | cons z cells =>
    obtain ⟨_, copy, hcopy⟩ := exists_isFirstRepeat (p := p) hrepeats hcells
    obtain ⟨rfl, rfl⟩ := hfirst.unique hcopy
    cases hclash with
    | rows hdiffer => exact absurd rfl hdiffer
    | operators _ => exact ⟨_, _, rfl⟩

/-- Where each instantiation alone gives tests, the matrix of all of them fails for two different
instantiations, unless the first clash is one between copies of an instantiation. Then the failure
names one obligation twice. Without instantiations no failure is put down to them. -/
theorem clash_of_instantiations
    (halone : ∀ types ∈ instantiations, ∃ tests, p.matrix c os [types] = .ok tests)
    (hfail : p.matrix c os instantiations = .error failure) :
    (instantiations ≠ [] → ¬ RepeatsItself instantiations →
      ∃ first ∈ instantiations, ∃ second ∈ instantiations, first ≠ second ∧ ∃ name,
        failure = .cause (.malformedInstantiation
          (.sameTestName first second p.target.name name))) ∧
    (RepeatsItself instantiations → ∃ label name,
      failure = .cause (.declaration (.sameTestName label label p.target.name name))) ∧
    (instantiations = [] → ∀ issue, failure ≠ .cause (.malformedInstantiation issue)) := by
  refine ⟨fun hne => malformed_of_not_repeatsItself hne halone hfail,
    declaration_of_repeatsItself halone hfail, ?_⟩
  rintro rfl
  exact not_malformed_of_no_instantiations hfail

end

attribute [local instance] Host.terminal

theorem clash_of_spelling :
    let p : TestPlan := { target := { name := "W", generics := ⟨[⟨.type, "T", none⟩]⟩ } }
    let os : List Obligation := [⟨"Semigroup", ["Additive"], none, 0, none⟩]
    let instantiations := [["i32"], ["Vec<i32>"], ["Vec_i32"]]
    (∀ types ∈ instantiations, ∃ tests, p.matrix .standard os [types] = .ok tests) ∧
      ∃ failure, p.matrix .standard os instantiations = .error failure ∧
        ∃ first ∈ instantiations, ∃ second ∈ instantiations, first ≠ second ∧ ∃ name,
          failure = .cause (.malformedInstantiation (.sameTestName first second "W" name)) := by
  intro p os instantiations
  have hsome : ∀ types ∈ instantiations, (p.matrix .standard os [types]).toOption.isSome := by
    decide +kernel
  have halone : ∀ types ∈ instantiations, ∃ tests, p.matrix .standard os [types] = .ok tests :=
    fun types htypes => exists_ok_of_isSome (hsome types htypes)
  have hnone : (p.matrix .standard os instantiations).toOption.isNone := by decide +kernel
  obtain ⟨failure, hfail⟩ := exists_error_of_isNone hnone
  have hdistinct : ¬ RepeatsItself instantiations := by
    rintro ⟨before, types, hfirst⟩
    obtain ⟨after, hsplit⟩ := hfirst.split
    have hnodup : instantiations.Nodup := by decide
    rw [hsplit] at hnodup
    exact List.disjoint_of_nodup_append hnodup hfirst.earlier List.mem_cons_self
  obtain ⟨hmalformed, _, _⟩ := clash_of_instantiations halone hfail
  exact ⟨halone, failure, hfail, hmalformed (List.cons_ne_nil _ _) hdistinct⟩

/-- An instantiation that is listed twice is put down to the operators of an obligation. -/
theorem copies_blamed_on_operators :
    let p : TestPlan := { target := { name := "W", generics := ⟨[⟨.type, "T", none⟩]⟩ } }
    let os : List Obligation := [⟨"Semigroup", ["Additive"], none, 0, none⟩]
    (∃ tests, p.matrix .standard os [["i32"]] = .ok tests) ∧
      ∃ label name, p.matrix .standard os [["i32"], ["i32"]] =
        .error (.cause (.declaration (.sameTestName label label "W" name))) := by
  intro p os
  have hsome : (p.matrix .standard os [["i32"]]).toOption.isSome := by decide +kernel
  have hnone : (p.matrix .standard os [["i32"], ["i32"]]).toOption.isNone := by decide +kernel
  obtain ⟨tests, htests⟩ := exists_ok_of_isSome hsome
  obtain ⟨failure, hfail⟩ := exists_error_of_isNone hnone
  have halone : ∀ types ∈ [["i32"], ["i32"]],
      ∃ tests, p.matrix .standard os [types] = .ok tests := by
    intro types htypes
    obtain rfl : types = ["i32"] := by simpa using htypes
    exact ⟨tests, htests⟩
  have hrepeats : RepeatsItself [["i32"], ["i32"]] :=
    ⟨[["i32"]], ["i32"], ⟨[], rfl⟩, List.nodup_singleton _, List.mem_cons_self, rfl⟩
  obtain ⟨label, name, rfl⟩ := declaration_of_repeatsItself halone hfail hrepeats
  exact ⟨⟨tests, htests⟩, label, name, hfail⟩

end TestPlan
end StructureDerive
