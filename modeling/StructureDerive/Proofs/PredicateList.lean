import StructureDerive.Proofs.CommaList
import StructureDerive.Stub

/-! # Lists of predicates

A where list is written as a comma list and read by splitting it. Splitting takes away the commas at
depth 0, the blanks next to them and the segments that hold nothing else. What is left are the
predicates: each of them is one item by itself, and their join is split into them again.
-/
namespace StructureDerive

namespace Text
variable {cs p : List Char} {s : String} {texts : List String}

/-- One item of a comma list, with balanced brackets. -/
structure IsItem (s : String) : Prop where
  split_self : splitTopLevel s = [s]
  balanced : depthThrough 0 none s.toList = 0

theorem intercalate_piecesFrom (cs : List Char) : [','].intercalate (piecesFrom 0 none cs) = cs := by
  induction cs using comma_induction with
  | whole cs e he => rw [piecesFrom_whole he, List.intercalate_singleton]
  | split u v hu ih =>
    obtain ⟨q, qs, hq⟩ := List.exists_cons_of_ne_nil (piecesFrom_ne_nil 0 none v)
    rw [hq] at ih
    rw [piecesFrom_split hu, hq, List.intercalate_cons_cons, ih, List.append_assoc]
    rfl

theorem isSeparable_piecesFrom (cs : List Char) : IsSeparable (piecesFrom 0 none cs) := by
  induction cs using comma_induction with
  | whole cs e he =>
    rw [piecesFrom_whole he]
    exact .last he
  | split u v hu ih =>
    rw [piecesFrom_split hu]
    exact .cons hu ih

/-- A piece of a split is not split any further. -/
theorem topLevelPieces_of_mem (hp : p ∈ topLevelPieces cs) : topLevelPieces p = [p] := by
  obtain ⟨hne, htrimmed⟩ := isTrimmed_of_mem_topLevelPieces hp
  obtain ⟨e, he⟩ := (isSeparable_topLevelPieces cs).exists_wholeDepth? hp
  rw [topLevelPieces_whole he, htrimmed.trim_eq, List.filter_eq_self]
  intro q hq
  obtain rfl := List.mem_singleton.mp hq
  simpa using hne

theorem toList_splitTopLevel (s : String) :
    (splitTopLevel s).map String.toList = topLevelPieces s.toList := by
  simp [splitTopLevel, List.map_map, Function.comp_def]

theorem mem_splitTopLevel_iff {part : String} :
    part ∈ splitTopLevel s ↔ part.toList ∈ topLevelPieces s.toList := by
  rw [← toList_splitTopLevel, List.mem_map_of_injective fun _ _ => String.toList_inj.mp]

theorem splitTopLevel_eq_singleton_iff :
    splitTopLevel s = [s] ↔ topLevelPieces s.toList = [s.toList] := by
  rw [← toList_splitTopLevel, ← List.map_singleton]
  exact (List.map_injective_iff.mpr fun _ _ => String.toList_inj.mp).eq_iff.symm

theorem IsItem.mem_self (h : IsItem s) : s ∈ splitTopLevel s := by
  rw [h.split_self]
  exact List.mem_cons_self

theorem IsItem.wholeDepth? (h : IsItem s) : wholeDepth? 0 none s.toList = some 0 := by
  have hpiece := mem_splitTopLevel_iff.mp h.mem_self
  obtain ⟨e, he⟩ := (isSeparable_topLevelPieces s.toList).exists_wholeDepth? hpiece
  have hbalanced := (wholeDepth?_eq_some_iff.mp he).1
  rw [he, ← hbalanced, h.balanced]

theorem keepsApart_append (htexts : ∀ p ∈ texts, IsItem p) (s : String) :
    KeepsApart (texts ++ splitTopLevel s) := by
  rw [keepsApart_iff, List.map_append, toList_splitTopLevel]
  refine IsSeparable.append ?_ (isSeparable_topLevelPieces s.toList)
  exact List.forall_mem_map.mpr fun p hp => (htexts p hp).wholeDepth?

theorem isTrimmed_of_mem_splitTopLevel {part : String} (hp : part ∈ splitTopLevel s) :
    part.toList ≠ [] ∧ IsTrimmed part.toList :=
  isTrimmed_of_mem_topLevelPieces (mem_splitTopLevel_iff.mp hp)

/-- Items put before the pieces of a split are split from them again. -/
theorem splitTopLevel_commaList_append (htexts : ∀ p ∈ texts, IsItem p) (s : String) :
    splitTopLevel (commaList (texts ++ splitTopLevel s)) = texts ++ splitTopLevel s := by
  refine (splitTopLevel_commaList_iff fun p hp => ?_).mpr (keepsApart_append htexts s)
  rcases List.mem_append.mp hp with hp | hp
  · exact isTrimmed_of_mem_splitTopLevel (htexts p hp).mem_self
  · exact isTrimmed_of_mem_splitTopLevel hp

/-- A text is the comma list of its segments, which the commas at depth 0 keep apart, and the split
gives their stripped texts without the blank ones. -/
theorem exists_segments (s : String) : ∃ segments, s = ",".intercalate segments ∧
    KeepsApart segments ∧ splitTopLevel s = (segments.map strip).filter (· ≠ "") := by
  have hlists : ((piecesFrom 0 none s.toList).map String.ofList).map String.toList =
      piecesFrom 0 none s.toList := by
    simp [List.map_map, Function.comp_def]
  refine ⟨(piecesFrom 0 none s.toList).map String.ofList, ?_, ?_, ?_⟩
  · rw [← String.toList_inj, String.toList_intercalate, hlists]
    exact (intercalate_piecesFrom s.toList).symm
  · rw [keepsApart_iff, hlists]
    exact isSeparable_piecesFrom s.toList
  · have hstripped : ((piecesFrom 0 none s.toList).map String.ofList).map strip =
        ((piecesFrom 0 none s.toList).map trim).map String.ofList := by
      simp [List.map_map, Function.comp_def, strip]
    have hblank : ∀ u : List Char, (!u.isEmpty) = decide (String.ofList u ≠ "") := by
      intro u
      cases u <;> simp
    rw [hstripped, List.filter_map, splitTopLevel, topLevelPieces]
    exact congrArg _ (List.filter_congr fun u _ => hblank u)

/-- The where list of a target with a clause is split into the predicates of both. -/
theorem splitTopLevel_renderWhere (t : Target) (clause : Option String)
    (hown : ∀ p ∈ t.predicates, IsItem p) : ∃ written,
      renderWhere (t.mergeWhere clause) =
        (if t.mergeWhere clause = [] then "" else " where " ++ written) ∧
      splitTopLevel written = t.mergeWhere clause := by
  have hmerged : t.mergeWhere clause = t.predicates ++ splitTopLevel (clause.getD "") := by
    cases clause <;> rfl
  refine ⟨commaList (t.mergeWhere clause), ?_, ?_⟩
  · simp [renderWhere, List.isEmpty_iff]
  · rw [hmerged]
    exact splitTopLevel_commaList_append hown _

/-- Splitting loses nothing but commas at depth 0, blanks next to them and blank segments. Its parts
are items that are split no further, and joined by commas they are the parts of their join. Any
items with balanced brackets are split from their join again, and so are the predicates of a where
list that has them and those of a clause. -/
theorem splitTopLevel_stable (s : String) :
    (∀ p ∈ splitTopLevel s, p ≠ "" ∧ strip p = p ∧ splitTopLevel p = [p]) ∧
    splitTopLevel (commaList (splitTopLevel s)) = splitTopLevel s ∧
    (∃ segments, s = ",".intercalate segments ∧ KeepsApart segments ∧
      splitTopLevel s = (segments.map strip).filter (· ≠ "")) ∧
    (∀ texts, (∀ p ∈ texts, IsItem p) → splitTopLevel (commaList texts) = texts) ∧
    ∀ (t : Target) (clause : Option String), (∀ p ∈ t.predicates, IsItem p) → ∃ written,
      renderWhere (t.mergeWhere clause) =
        (if t.mergeWhere clause = [] then "" else " where " ++ written) ∧
      splitTopLevel written = t.mergeWhere clause := by
  refine ⟨?_, ?_, exists_segments s, ?_, splitTopLevel_renderWhere⟩
  · intro p hp
    obtain ⟨hne, htrimmed⟩ := isTrimmed_of_mem_splitTopLevel hp
    have hself := topLevelPieces_of_mem (mem_splitTopLevel_iff.mp hp)
    refine ⟨by simpa using hne, ?_, splitTopLevel_eq_singleton_iff.mpr hself⟩
    rw [strip, htrimmed.trim_eq, String.ofList_toList]
  · have hnone : ∀ p ∈ ([] : List String), IsItem p := List.forall_mem_nil _
    exact splitTopLevel_commaList_append hnone s
  · intro texts htexts
    have hjoin := splitTopLevel_commaList_append htexts ""
    have hempty : splitTopLevel "" = [] := rfl
    rwa [hempty, List.append_nil] at hjoin

/-- Arrows close nothing, and the last predicate of the clause never closes its bracket. -/
theorem splitTopLevel_stable_of_arrow :
    let s := " Vec<T, U>: Copy,, F: Fn(T, U) -> [U; 2] , U: Into<(T, "
    let parts := ["Vec<T, U>: Copy", "F: Fn(T, U) -> [U; 2]", "U: Into<(T,"]
    let own := "G: Fn() -> Option<T>"
    let t : Target := { name := "W", predicates := [own] }
    (∀ p ∈ t.predicates, IsItem p) ∧ splitTopLevel s = parts ∧
      splitTopLevel (commaList parts) = parts ∧ splitTopLevel (commaList [own, own]) = [own, own] ∧
      ∃ written, renderWhere (t.mergeWhere (some s)) = " where " ++ written ∧
        splitTopLevel written = own :: parts := by
  intro s parts own t
  have hsplit : splitTopLevel s = parts := by decide +kernel
  have hown : IsItem own := ⟨by decide +kernel, by decide +kernel⟩
  have hpredicates : ∀ p ∈ t.predicates, IsItem p := List.forall_mem_singleton.mpr hown
  obtain ⟨_, hjoin, _, htexts, hwhere⟩ := splitTopLevel_stable s
  obtain ⟨written, hwritten, hagain⟩ := hwhere t (some s) hpredicates
  have hmerged : t.mergeWhere (some s) = own :: parts := congrArg (own :: ·) hsplit
  rw [hsplit] at hjoin
  rw [hmerged, if_neg (List.cons_ne_nil _ _)] at hwritten
  rw [hmerged] at hagain
  refine ⟨hpredicates, hsplit, hjoin, htexts [own, own] ?_, written, ?_, hagain⟩
  · exact List.forall_mem_cons.mpr ⟨hown, hpredicates⟩
  · rw [hmerged, hwritten]

end Text
end StructureDerive
