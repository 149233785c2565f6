import StructureDerive.Catalog.Standard
import StructureDerive.Host.Terminal
import StructureDerive.Proofs.BlankSegment
import StructureDerive.Proofs.PlainText
import StructureDerive.Proofs.PredicateList
import StructureDerive.Proofs.StageSuccess
import StructureDerive.Proofs.Table
import StructureDerive.Proofs.TargetTable

/-! # The where field of a target

The predicates of a target are the texts that are listed under `where`, stripped and without the
blank ones. A text that stands there alone is taken as it is, so it is the one place from which a
padded or a blank predicate can come, and with a blank one every implementation of the target is
written with an empty predicate.
-/
namespace StructureDerive
open Outcome
variable {fields : List (Scalar × Value)} {position : Int} {d : Declaration} {s : String}

theorem Value.mapM_text?_eq_some_iff {items : List Value} {texts : List String} :
    items.mapM Value.text? = some texts ↔ items = texts.map .text := by
  induction items generalizing texts with
  | nil => cases texts <;> simp
  | cons v items ih =>
    rw [List.mapM_cons]
    cases texts with
    | nil => cases v.text? <;> cases items.mapM Value.text? <;> simp
    | cons s texts => simp [Option.bind_eq_some_iff, ih, text?_eq_some_iff]

/-- A predicate as it is written: not blank, and without blanks around it. -/
structure IsPredicate (s : String) : Prop where
  nonempty : s ≠ ""
  stripped : Text.strip s = s

theorem nonBlank?_eq_self_iff : Text.nonBlank? s = some s ↔ IsPredicate s := by
  have hempty : Text.strip s = s → (s ≠ "" ↔ ¬ Text.allBlank s) := fun h => by
    rw [← Text.strip_eq_empty_iff, h]
  unfold Text.nonBlank?
  split
  · rename_i hblank
    simp only [reduceCtorEq, false_iff]
    exact fun h => (hempty h.stripped).mp h.nonempty hblank
  · rename_i hvisible
    rw [Option.some.injEq]
    exact ⟨fun h => ⟨(hempty h).mpr hvisible, h⟩, (·.stripped)⟩

theorem isPredicate_of_nonBlank? {p : String} (h : Text.nonBlank? s = some p) : IsPredicate p := by
  unfold Text.nonBlank? at h
  split at h
  · cases h
  · rename_i hvisible
    cases h
    have hagain : Text.strip (Text.strip s) = Text.strip s := by
      simp [Text.strip, Text.trim_trim]
    exact ⟨fun hempty => hvisible (Text.strip_eq_empty_iff.mp hempty), hagain⟩

theorem IsPredicate.not_allBlank (h : IsPredicate s) : ¬ Text.allBlank s := fun hblank => by
  have hempty := Text.strip_eq_empty_iff.mpr hblank
  rw [h.stripped] at hempty
  exact h.nonempty hempty

namespace Declaration
variable {subject : String} {v : Value} {texts : List String}

theorem textList_list (subject : String) (texts : List String) :
    textList subject (.list (texts.map .text)) = .ok (texts.filterMap Text.nonBlank?) := by
  rw [textList, Value.mapM_text?_eq_some_iff.mpr rfl]

/-- The texts of a field are the lone text itself or predicates. -/
theorem text_or_isPredicate_of_textList (h : textList subject v = .ok texts) :
    (∃ s, v = .text s ∧ texts = [s]) ∨
      (∀ s, v ≠ .text s) ∧ ∀ p ∈ texts, IsPredicate p := by
  unfold textList at h
  split at h
  · cases h
    exact Or.inr ⟨nofun, nofun⟩
  · cases h
    exact Or.inl ⟨_, rfl, rfl⟩
  · split at h
    · cases h
      refine Or.inr ⟨nofun, fun p hp => ?_⟩
      obtain ⟨s, _, hs⟩ := List.mem_filterMap.mp hp
      exact isPredicate_of_nonBlank? hs
    · cases h
  · cases h

def withPredicates (d : Declaration) (predicates : List String) : Declaration :=
  { d with target := { d.target with predicates } }

theorem testSettings_target (t : Target) (entries : List TraitEntry) (raw : Value) :
    (testSettings t entries raw).target = t := by
  cases raw <;> rfl

theorem withPredicates_testSettings (t : Target) (entries : List TraitEntry) (raw : Value)
    (predicates : List String) : (testSettings t entries raw).withPredicates predicates =
      testSettings { t with predicates } entries raw := by
  cases raw <;> rfl

section
variable [Host]

/-- The predicates of a declaration are read last, and nothing else depends on them. -/
theorem ofFields_eq_bind {base : List (Scalar × Value)}
    (hother : ∀ key, key ≠ "where" → Value.lookup base key = Value.lookup fields key)
    (hnone : Value.lookup base "where" = some .null) (position : Int) :
    ofFields fields position = ofFields base position >>= fun d =>
      liftM (textList s!"{d.target.name}.where" ((Value.lookup fields "where").getD .null)) >>=
        fun predicates => pure (d.withPredicates predicates) := by
  have hname : name? base = name? fields := by
    rw [name?, hother "name" (by decide), name?]
  have htraits : traits? base = traits? fields := by
    rw [traits?, hother "traits" (by decide), traits?]
  have hgenerics : generics base = generics fields := by
    rw [generics, hother "generics" (by decide), generics]
  cases hname' : name? fields with
  | none =>
    rw [ofFields_of_unnamed hname', ofFields_of_unnamed (hname.trans hname')]
    rfl
  | some name =>
    cases htraits' : traits? fields with
    | none =>
      rw [ofFields_of_no_traits hname' htraits',
        ofFields_of_no_traits (hname.trans hname') (htraits.trans htraits')]
      rfl
    | some traits =>
      have hempty : ∀ subject, (liftM (textList subject .null) : Except Failure (List String)) =
          pure [] := fun _ => rfl
      rw [ofFields_of_named hname' htraits',
        ofFields_of_named (hname.trans hname') (htraits.trans htraits'), hgenerics, hnone,
        hother "quickcheck" (by decide)]
      simp only [bind_assoc, Option.getD_some, hempty, pure_bind, testSettings_target,
        withPredicates_testSettings]

theorem ofFields_assign_where (fields : List (Scalar × Value)) (v : Value) (position : Int) :
    ofFields (Value.assign fields (.text "where") v) position =
      ofFields (Value.assign fields (.text "where") .null) position >>= fun d =>
        liftM (textList s!"{d.target.name}.where" v) >>=
          fun predicates => pure (d.withPredicates predicates) := by
  have hother : ∀ key, key ≠ "where" →
      Value.lookup (Value.assign fields (.text "where") .null) key =
        Value.lookup (Value.assign fields (.text "where") v) key := fun key hkey => by
    rw [Value.lookup_assign_of_ne hkey, Value.lookup_assign_of_ne hkey]
  rw [ofFields_eq_bind hother (Value.lookup_assign_self _ _ _), Value.lookup_assign_self]
  rfl

/-- A lone text and a list of it alone declare the same when it is a predicate as it stands. -/
theorem ofFields_lone_text_iff (fields : List (Scalar × Value)) (position : Int) (s : String) :
    ofFields (Value.assign fields (.text "where") (.text s)) position =
        ofFields (Value.assign fields (.text "where") (.list [.text s])) position ↔
      IsPredicate s ∨
        ∀ d, ofFields (Value.assign fields (.text "where") .null) position ≠ .ok d := by
  have hlist : ∀ subject, textList subject (.list [.text s]) =
      .ok ([s].filterMap Text.nonBlank?) := fun subject => textList_list subject [s]
  rw [ofFields_assign_where, ofFields_assign_where fields (.list [.text s])]
  cases hbase : ofFields (Value.assign fields (.text "where") .null) position with
  | error cause => exact iff_of_true rfl (Or.inr nofun)
  | ok d =>
    have hsome : ¬ ∀ d', (.ok d : Except Failure Declaration) ≠ .ok d' := fun h => h d rfl
    rw [or_iff_left hsome, ← nonBlank?_eq_self_iff]
    constructor
    · intro h
      simp only [hlist] at h
      have hsame : d.withPredicates [s] = d.withPredicates ([s].filterMap Text.nonBlank?) :=
        Except.ok.inj h
      have htexts : [s] = [s].filterMap Text.nonBlank? := congrArg (·.target.predicates) hsame
      cases hs : Text.nonBlank? s with
      | none => simp [hs] at htexts
      | some p => simpa [hs, eq_comm] using htexts
    · intro h
      have hsame : [s].filterMap Text.nonBlank? = [s] := by simp [h]
      simp only [hlist, hsame]
      rfl

theorem textList_of_ofFields (h : ofFields fields position = .ok d) :
    textList s!"{d.target.name}.where" ((Value.lookup fields "where").getD .null) =
      .ok d.target.predicates := by
  obtain ⟨_, _, _, _, predicates, _, _, _, _, hpredicates, rfl⟩ := ofFields_eq_ok_iff.mp h
  rw [testSettings_target]
  exact hpredicates

end

theorem getD_lookup_eq_text_iff :
    (Value.lookup fields "where").getD .null = .text s ↔
      Value.lookup fields "where" = some (.text s) := by
  cases Value.lookup fields "where" <;> simp

/-- A padded or a blank predicate can only come from a lone text. -/
theorem isPredicate_iff_of_ofFields [Host] (h : ofFields fields position = .ok d) :
    (∀ p ∈ d.target.predicates, IsPredicate p) ↔
      ∀ s, Value.lookup fields "where" = some (.text s) → IsPredicate s := by
  simp only [← getD_lookup_eq_text_iff]
  rcases text_or_isPredicate_of_textList (textList_of_ofFields h) with ⟨s, hs, hps⟩ | ⟨hno, hps⟩
  · rw [hps, List.forall_mem_singleton, hs]
    exact ⟨fun hp _ heq => Scalar.text.inj (Value.scalar.inj heq) ▸ hp, fun hall => hall s rfl⟩
  · exact iff_of_true hps fun s hs => absurd hs (hno s)

theorem exists_allBlank_iff_of_ofFields [Host] (h : ofFields fields position = .ok d) :
    (∃ p ∈ d.target.predicates, Text.allBlank p) ↔
      ∃ s, Value.lookup fields "where" = some (.text s) ∧ Text.allBlank s := by
  simp only [← getD_lookup_eq_text_iff]
  rcases text_or_isPredicate_of_textList (textList_of_ofFields h) with ⟨s, hs, hps⟩ | ⟨hno, hps⟩
  · rw [hps, hs]
    simp
  · refine iff_of_false ?_ ?_
    · rintro ⟨p, hp, hblank⟩
      exact (hps p hp).not_allBlank hblank
    · rintro ⟨s, hs, _⟩
      exact hno s hs

end Declaration

namespace Target
open Text (HasBlankSegment depthThrough)
variable {t : Target} {clause : Option String}

/-- The predicates of a target and those of a clause. -/
theorem mem_mergeWhere_iff {p : String} : p ∈ t.mergeWhere clause ↔
    p ∈ t.predicates ∨ ∃ s ∈ clause, p ∈ Text.splitTopLevel s := by
  cases clause <;> simp [mergeWhere]

theorem exists_allBlank_mergeWhere_iff :
    (∃ p ∈ t.mergeWhere clause, Text.allBlank p) ↔ ∃ p ∈ t.predicates, Text.allBlank p := by
  constructor
  · rintro ⟨p, hp, hblank⟩
    rcases mem_mergeWhere_iff.mp hp with hp | ⟨s, _, hp⟩
    · exact ⟨p, hp, hblank⟩
    · obtain ⟨hne, htrimmed⟩ := Text.isTrimmed_of_mem_splitTopLevel hp
      have hempty := Text.trim_blanks (Text.allBlank_iff.mp hblank)
      exact absurd (htrimmed.trim_eq.symm.trans hempty) hne
  · rintro ⟨p, hp, hblank⟩
    exact ⟨p, mem_mergeWhere_iff.mpr (Or.inl hp), hblank⟩

/-- With balanced predicates of its own, a target has an empty place in a where list only if one of
them has it. -/
theorem hasBlankSegment_mergeWhere_iff
    (hown : ∀ p ∈ t.predicates, depthThrough 0 none p.toList = 0)
    (hne : t.mergeWhere clause ≠ []) :
    HasBlankSegment (commaList (t.mergeWhere clause)).toList ↔
      ∃ p ∈ t.predicates, HasBlankSegment p.toList := by
  have hmerged : t.mergeWhere clause = t.predicates ++ Text.splitTopLevel (clause.getD "") := by
    cases clause <;> rfl
  have hdepth : ∀ p ∈ ((t.mergeWhere clause).map String.toList).dropLast,
      depthThrough 0 none p = 0 := by
    intro p hp
    rw [hmerged, List.map_append, Text.toList_splitTopLevel, List.dropLast_append] at hp
    have hclause := Text.isSeparable_iff.mp (Text.isSeparable_topLevelPieces (clause.getD "").toList)
    have hmap : ∀ q ∈ t.predicates.map String.toList, depthThrough 0 none q = 0 :=
      List.forall_mem_map.mpr hown
    split at hp
    · exact hmap p (List.dropLast_subset _ hp)
    · rcases List.mem_append.mp hp with hp | hp
      · exact hmap p hp
      · exact hclause.2 p hp
  rw [toList_commaList, Text.hasBlankSegment_intercalate (by simpa using hne) hdepth]
  constructor
  · rintro ⟨_, hmem, hblank⟩
    obtain ⟨p, hp, rfl⟩ := List.mem_map.mp hmem
    rcases mem_mergeWhere_iff.mp hp with hp | ⟨s, _, hp⟩
    · exact ⟨p, hp, hblank⟩
    · have hpiece := Text.mem_splitTopLevel_iff.mp hp
      exact absurd hblank (Text.not_hasBlankSegment_of_mem hpiece)
  · rintro ⟨p, hp, hblank⟩
    exact ⟨p.toList, List.mem_map_of_mem (mem_mergeWhere_iff.mpr (Or.inl hp)), hblank⟩

theorem exists_clause_of_stubs {c : Catalog} {os : List Obligation} {ss : List Stub} {stub : Stub}
    (h : t.stubs c os = .ok ss) (hstub : stub ∈ ss) :
    ∃ clause, stub.predicates = t.mergeWhere clause := by
  obtain ⟨o, _, ho⟩ := exists_of_mem_mapM h hstub
  obtain ⟨_, _, rfl⟩ := stub_eq_ok_iff.mp ho
  exact ⟨o.clause, rfl⟩

/-- What stands in front of the where list of an implementation. -/
def implHead (t : Target) (stub : Stub) : String :=
  s!"impl{t.generics.declared} _alga::general::{stub.traitName}<{commaList stub.operators}> " ++
    s!"for {t.type}"

theorem renderStub_eq (t : Target) (stub : Stub) : t.renderStub stub =
    t.implHead stub ++ (if stub.predicates = [] then "" else " where " ++ commaList stub.predicates) ++
      " \x7b\x7d" := by
  have hwhere : renderWhere stub.predicates =
      if stub.predicates = [] then "" else " where " ++ commaList stub.predicates := by
    simp [renderWhere, List.isEmpty_iff]
  rw [renderStub, implHead, hwhere]
  simp [String.append_assoc, toString_text]

end Target

namespace Declaration

/-- A lone text under `where` is taken as it stands, and in a list it is stripped, or left out when it
is blank. So the two agree for the texts that are predicates as they stand, and only a lone text
brings in a padded or a blank predicate. A blank one puts an empty predicate into every
implementation. Nothing else does, apart from predicates with an empty place of their own. -/
theorem where_spellings_agree_iff [Host] (fields : List (Scalar × Value)) (position : Int) :
    (∀ s, ofFields (Value.assign fields (.text "where") (.text s)) position =
        ofFields (Value.assign fields (.text "where") (.list [.text s])) position ↔
      IsPredicate s ∨
        ∀ d, ofFields (Value.assign fields (.text "where") .null) position ≠ .ok d) ∧
    ∀ d, ofFields fields position = .ok d →
      ((∀ p ∈ d.target.predicates, IsPredicate p) ↔
        ∀ s, Value.lookup fields "where" = some (.text s) → IsPredicate s) ∧
      ∀ c options withTests result, d.derive c options withTests = .ok result →
        ∀ stub ∈ result.stubs,
          d.target.renderStub stub = d.target.implHead stub ++
            (if stub.predicates = [] then "" else " where " ++ commaList stub.predicates) ++
              " \x7b\x7d" ∧
          ((∃ p ∈ stub.predicates, Text.allBlank p) ↔
            ∃ s, Value.lookup fields "where" = some (.text s) ∧ Text.allBlank s) ∧
          ((∀ p ∈ d.target.predicates, Text.depthThrough 0 none p.toList = 0) →
            stub.predicates ≠ [] →
              (Text.HasBlankSegment (commaList stub.predicates).toList ↔
                ∃ p ∈ d.target.predicates, Text.HasBlankSegment p.toList)) := by
  refine ⟨ofFields_lone_text_iff fields position, fun d hd => ?_⟩
  refine ⟨isPredicate_iff_of_ofFields hd, fun c options withTests result hresult stub hstub => ?_⟩
  obtain ⟨_, _, hstubs, _⟩ := derive_eq_ok hresult
  obtain ⟨clause, hclause⟩ := Target.exists_clause_of_stubs hstubs hstub
  refine ⟨Target.renderStub_eq d.target stub, ?_, fun hown hne => ?_⟩
  · rw [hclause, Target.exists_allBlank_mergeWhere_iff]
    exact exists_allBlank_iff_of_ofFields hd
  · rw [hclause] at hne ⊢
    exact Target.hasBlankSegment_mergeWhere_iff hown hne

/-- A target table with a given value under `where`. -/
def semigroupWhere (given : Value) : List (Scalar × Value) :=
  [(.text "name", .text "W"), (.text "traits", .list [.table [(.text "Semigroup", .text "Additive")]]),
    (.text "where", given)]

attribute [local instance] Host.terminal

/-- A list with a padded predicate and a blank text. -/
theorem where_spellings_of_padded_list :
    ∃ d, ofFields (semigroupWhere (.list [.text " T: Copy ", .text ""])) 0 = .ok d ∧
      d.target.predicates = ["T: Copy"] ∧ (∀ p ∈ d.target.predicates, IsPredicate p) ∧
      ∃ result, d.derive Catalog.standard {} false = .ok result ∧ result.stubs ≠ [] ∧
        ∀ stub ∈ result.stubs, stub.predicates ≠ [] ∧
          ¬ Text.HasBlankSegment (commaList stub.predicates).toList := by
  let fields := semigroupWhere (.list [.text " T: Copy ", .text ""])
  obtain ⟨d, hd, hown, result, hresult, hstubs⟩ : ∃ d, ofFields fields 0 = .ok d ∧
      d.target.predicates = ["T: Copy"] ∧ ∃ result,
        d.derive Catalog.standard {} false = .ok result ∧
          result.stubs.map (·.predicates) = [["T: Copy"]] :=
    ⟨_, rfl, rfl, _, rfl, rfl⟩
  obtain ⟨hpredicates, hrendered⟩ := (where_spellings_agree_iff fields 0).2 d hd
  refine ⟨d, hd, hown, hpredicates.mpr nofun, result, hresult, ?_, fun stub hstub => ?_⟩
  · intro hnone
    simp [hnone] at hstubs
  have hmerged : stub.predicates ∈ [["T: Copy"]] := hstubs ▸ List.mem_map_of_mem hstub
  have hne : stub.predicates ≠ [] := by
    rw [List.mem_singleton.mp hmerged]
    exact List.cons_ne_nil _ _
  obtain ⟨_, _, hsegments⟩ := hrendered _ _ _ result hresult stub hstub
  rw [hown] at hsegments
  refine ⟨hne, fun hblank => ?_⟩
  obtain ⟨p, hp, hsegment⟩ := (hsegments (by decide +kernel) hne).mp hblank
  obtain rfl := List.mem_singleton.mp hp
  have hwhole : Text.wholeDepth? 0 none "T: Copy".toList = some 0 := by decide +kernel
  rw [Text.hasBlankSegment_whole hwhole] at hsegment
  exact absurd (hsegment 'T' (by decide)) (by decide)

/-- A blank text is a predicate when it stands alone, and none in a list. -/
theorem blank_where_is_predicate :
    ∃ d d', ofFields (semigroupWhere (.text " ")) 0 = .ok d ∧
      ofFields (semigroupWhere (.list [.text " "])) 0 = .ok d' ∧
      d.target.predicates = [" "] ∧ d'.target.predicates = [] ∧
      ∃ result, d.derive Catalog.standard {} false = .ok result ∧
        result.stubs.map d.target.renderStub =
          ["impl _alga::general::AbstractSemigroup<Additive> for W where   \x7b\x7d"] := by
  refine ⟨_, _, rfl, rfl, rfl, rfl, _, rfl, ?_⟩
  decide +kernel

end Declaration
end StructureDerive
