import Mathlib.Data.List.Basic
import StructureDerive.Proofs.Fault
import StructureDerive.Proofs.IdentifierPath
import StructureDerive.Proofs.Outcome
import StructureDerive.Request.Entries

/-! # The arguments of trait entries

Operators are identifier paths, alone or in a sequence; a clause is a text that is not blank. Each check
has one statement for success and one for failure, with the value that is to blame.
-/
namespace StructureDerive
open Outcome
variable {given bad : Value} {kind : String} {ops : List String} {cause : Cause}

namespace Value

/-- A text that is an identifier path, blanks aside. -/
def IsOperator (given : Value) : Prop :=
  ∃ s, given = .text s ∧ Text.IsIdentifierPath (Text.strip s).toList

/-- A lone operator, or a sequence of operators that is not empty. -/
def IsOperators (given : Value) : Prop :=
  given.IsOperator ∨
    ∃ items, given.sequence? = some items ∧ items ≠ [] ∧ ∀ v ∈ items, v.IsOperator

def HasNoOperators (given : Value) : Prop := given = .null ∨ given.sequence? = some []

/-- The value within an argument that is the first to be no operator. -/
inductive FirstBad : Value → Value → Prop where
  | whole {given : Value} : given ≠ .null → given.sequence? = none → ¬ given.IsOperator →
      FirstBad given given
  | item {given : Value} {before after : List Value} {bad : Value} :
      given.sequence? = some (before ++ bad :: after) → (∀ v ∈ before, v.IsOperator) →
      ¬ bad.IsOperator → FirstBad given bad

/-- The stripped texts of an argument. -/
def operatorTexts : Value → List String
  | .text s => [Text.strip s]
  | .list items | .tuple items => items.filterMap fun v => v.text?.map Text.strip
  | _ => []

theorem FirstBad.isWritable [Host] (h : FirstBad given bad) (hgiven : given.isWritable) :
    bad.isWritable := by
  cases h with
  | whole => exact hgiven
  | item hitems _ _ => exact isWritable_of_mem_sequence? hgiven hitems (by simp)

theorem operatorTexts_of_sequence? {items : List Value} (h : given.sequence? = some items) :
    given.operatorTexts = items.filterMap fun v => v.text?.map Text.strip := by
  unfold sequence? at h
  split at h <;> cases h <;> rfl

theorem not_isOperator_of_sequence? {items : List Value} (h : given.sequence? = some items) :
    ¬ given.IsOperator := by
  rintro ⟨s, rfl, _⟩
  cases h

theorem ne_null_of_sequence? {items : List Value} (h : given.sequence? = some items) :
    given ≠ .null := by
  rintro rfl
  cases h

theorem accepted_sequence_iff {items : List Value} (h : given.sequence? = some items) :
    given.IsOperators ∨ given.HasNoOperators ↔ ∀ v ∈ items, v.IsOperator := by
  simp only [IsOperators, HasNoOperators, h, not_isOperator_of_sequence? h, ne_null_of_sequence? h,
    false_or, Option.some.injEq]
  constructor
  · rintro (⟨_, rfl, _, hall⟩ | rfl)
    · exact hall
    · exact List.forall_mem_nil _
  · intro hall
    by_cases hnil : items = []
    · exact Or.inr hnil
    · exact Or.inl ⟨items, rfl, hnil, hall⟩

end Value

namespace TraitEntry

theorem operator_text (kind s : String) : operator kind (.text s) =
    if Text.isPath (Text.strip s).toList then .ok (Text.strip s)
    else .error (.malformedOperator kind (.text s)) := rfl

theorem operator_of_ne_text (h : ∀ s, given ≠ .text s) :
    operator kind given = .error (.malformedOperator kind given) := by
  unfold operator
  split
  · exact absurd rfl (h _)
  · rfl

theorem operator_of_isOperator (kind : String) (h : given.IsOperator) :
    ∃ op, operator kind given = .ok op ∧ given.text?.map Text.strip = some op := by
  obtain ⟨s, rfl, hpath⟩ := h
  rw [operator_text, if_pos (Text.isPath_iff.mpr hpath)]
  exact ⟨_, rfl, rfl⟩

theorem operator_of_not_isOperator (h : ¬ given.IsOperator) :
    operator kind given = .error (.malformedOperator kind given) := by
  by_cases htext : ∃ s, given = .text s
  · obtain ⟨s, rfl⟩ := htext
    rw [operator_text, if_neg fun hpath => h ⟨s, rfl, Text.isPath_iff.mp hpath⟩]
  · exact operator_of_ne_text fun s hs => htext ⟨s, hs⟩

theorem operator_isOk_iff : (∃ op, operator kind given = .ok op) ↔ given.IsOperator := by
  constructor
  · rintro ⟨op, hop⟩
    refine Classical.byContradiction fun h => ?_
    rw [operator_of_not_isOperator h] at hop
    cases hop
  · intro h
    obtain ⟨op, hop, _⟩ := operator_of_isOperator kind h
    exact ⟨op, hop⟩

theorem operator_eq_error_iff : operator kind given = .error cause ↔
    ¬ given.IsOperator ∧ cause = .malformedOperator kind given := by
  by_cases h : given.IsOperator
  · obtain ⟨op, hop, _⟩ := operator_of_isOperator kind h
    simp [hop, h]
  · simp [operator_of_not_isOperator h, h, eq_comm]

theorem operators_of_sequence? (kind : String) {items : List Value}
    (h : given.sequence? = some items) : operators kind given = items.mapM (operator kind) := by
  unfold Value.sequence? at h
  split at h <;> cases h <;> rfl

theorem operators_of_no_sequence (kind : String) (hnull : given ≠ .null)
    (htext : ∀ s, given ≠ .text s) (h : given.sequence? = none) :
    operators kind given = .error (.malformedOperator kind given) := by
  unfold operators
  split
  · exact absurd rfl hnull
  · exact absurd rfl (htext _)
  · cases h
  · cases h
  · rfl

theorem map_operator_eq (kind : String) {items : List Value} (h : ∀ v ∈ items, v.IsOperator) :
    (items.map fun v => (operator kind v).toOption.getD "") =
      items.filterMap fun v => v.text?.map Text.strip := by
  refine (List.filterMap_eq_map_iff_forall_eq_some.mpr fun v hv => ?_).symm
  obtain ⟨op, hop, htext⟩ := operator_of_isOperator kind (h v hv)
  simp [hop, htext, Except.toOption]

/-- The operators of an argument that lists nothing else. -/
theorem operators_eq_ok_iff : operators kind given = .ok ops ↔
    (given.IsOperators ∨ given.HasNoOperators) ∧ ops = given.operatorTexts := by
  by_cases hnull : given = .null
  · subst hnull
    simp [operators, Value.HasNoOperators, Value.operatorTexts, eq_comm]
  by_cases htext : ∃ s, given = .text s
  · obtain ⟨s, rfl⟩ := htext
    rw [operators]
    by_cases h : (Value.text s).IsOperator
    · obtain ⟨op, hop, htext⟩ := operator_of_isOperator kind h
      cases htext
      simp [hop, h, Except.map, Value.IsOperators, Value.operatorTexts, eq_comm]
    · simp [operator_of_not_isOperator h, h, Except.map, Value.IsOperators, Value.HasNoOperators,
        Value.sequence?]
  cases hitems : given.sequence? with
  | some items =>
    rw [operators_of_sequence? kind hitems, mapM_eq_ok_iff "", Value.accepted_sequence_iff hitems,
      Value.operatorTexts_of_sequence? hitems]
    simp only [operator_isOk_iff]
    refine and_congr_right fun hall => ?_
    rw [map_operator_eq kind hall]
  | none =>
    rw [operators_of_no_sequence kind hnull (fun s hs => htext ⟨s, hs⟩) hitems]
    refine iff_of_false nofun ?_
    rintro ⟨(⟨s, hs, _⟩ | ⟨items, heq, _⟩) | (heq | heq), _⟩
    · exact htext ⟨s, hs⟩
    · cases hitems.symm.trans heq
    · exact hnull heq
    · cases hitems.symm.trans heq

/-- The first value that is no operator is to blame. -/
theorem operators_eq_error_iff : operators kind given = .error cause ↔
    ∃ bad, given.FirstBad bad ∧ cause = .malformedOperator kind bad := by
  by_cases hnull : given = .null
  · subst hnull
    refine iff_of_false nofun ?_
    rintro ⟨bad, ⟨hne, _, _⟩ | ⟨hitems, _, _⟩, _⟩
    · exact hne rfl
    · cases hitems
  by_cases htext : ∃ s, given = .text s
  · obtain ⟨s, rfl⟩ := htext
    rw [operators, map_eq_error_iff, operator_eq_error_iff]
    constructor
    · rintro ⟨hbad, rfl⟩
      exact ⟨_, .whole hnull rfl hbad, rfl⟩
    · rintro ⟨bad, ⟨_, _, hbad⟩ | ⟨hitems, _, _⟩, rfl⟩
      · exact ⟨hbad, rfl⟩
      · cases hitems
  cases hitems : given.sequence? with
  | some items =>
    rw [operators_of_sequence? kind hitems, mapM_eq_error_iff]
    simp only [operator_isOk_iff, operator_eq_error_iff]
    constructor
    · rintro ⟨before, bad, after, rfl, hbefore, hbad, rfl⟩
      exact ⟨bad, .item hitems hbefore hbad, rfl⟩
    · rintro ⟨bad, ⟨_, hnone, _⟩ | ⟨heq, hbefore, hbad⟩, rfl⟩
      · cases hitems.symm.trans hnone
      · cases hitems.symm.trans heq
        exact ⟨_, bad, _, rfl, hbefore, hbad, rfl⟩
  | none =>
    rw [operators_of_no_sequence kind hnull (fun s hs => htext ⟨s, hs⟩) hitems]
    constructor
    · rintro ⟨⟩
      exact ⟨given, .whole hnull hitems fun ⟨s, hs, _⟩ => htext ⟨s, hs⟩, rfl⟩
    · rintro ⟨bad, ⟨_, _, _⟩ | ⟨heq, _, _⟩, rfl⟩
      · rfl
      · cases hitems.symm.trans heq

theorem clause_text (s : String) : clause (.text s) =
    if Text.allBlank s then .error (.malformedWhere (.text s)) else .ok (Text.strip s) := by
  by_cases hs : Text.allBlank s
  · rw [if_pos hs, clause, Value.text?, Option.bind_some, Text.nonBlank?, if_pos hs]
  · rw [if_neg hs, clause, Value.text?, Option.bind_some, Text.nonBlank?, if_neg hs]

theorem clause_of_ne_text (h : ∀ s, given ≠ .text s) :
    clause given = .error (.malformedWhere given) := by
  have hnone : given.text? = none := by
    unfold Value.text?
    split
    · exact absurd rfl (h _)
    · rfl
  rw [clause, hnone, Option.bind_none]

theorem clause_eq_ok_iff {text : String} : clause given = .ok text ↔
    ∃ s, given = .text s ∧ ¬ Text.allBlank s ∧ Text.strip s = text := by
  by_cases hgiven : ∃ s, given = .text s
  · obtain ⟨s, rfl⟩ := hgiven
    rw [clause_text]
    split
    · rename_i hs
      simp only [reduceCtorEq, false_iff]
      rintro ⟨_, ⟨⟩, hne, _⟩
      exact hne hs
    · rename_i hs
      constructor
      · rintro ⟨⟩
        exact ⟨s, rfl, hs, rfl⟩
      · rintro ⟨_, ⟨⟩, _, rfl⟩
        rfl
  · rw [clause_of_ne_text fun s hs => hgiven ⟨s, hs⟩]
    simp only [reduceCtorEq, false_iff]
    rintro ⟨s, hs, _⟩
    exact hgiven ⟨s, hs⟩

theorem clause_eq_error_iff : clause given = .error cause ↔
    (∀ s, given = .text s → Text.allBlank s) ∧ .malformedWhere given = cause := by
  by_cases hgiven : ∃ s, given = .text s
  · obtain ⟨s, rfl⟩ := hgiven
    rw [clause_text]
    split
    · rename_i hs
      rw [Except.error.injEq, iff_and_self]
      rintro _ _ ⟨⟩
      exact hs
    · rename_i hs
      simp only [reduceCtorEq, false_iff]
      exact fun h => hs (h.1 s rfl)
  · rw [clause_of_ne_text fun s hs => hgiven ⟨s, hs⟩, Except.error.injEq, iff_and_self]
    exact fun _ s hs => absurd ⟨s, hs⟩ hgiven

theorem isIdentifierPath_of_mem_operatorTexts {op : String} (h : given.IsOperators)
    (hop : op ∈ given.operatorTexts) : Text.IsIdentifierPath op.toList := by
  rcases h with ⟨s, rfl, hs⟩ | ⟨items, hitems, _, hall⟩
  · rw [List.mem_singleton.mp hop]
    exact hs
  · rw [Value.operatorTexts_of_sequence? hitems] at hop
    obtain ⟨v, hv, htext⟩ := List.mem_filterMap.mp hop
    obtain ⟨s, rfl, hs⟩ := hall v hv
    cases htext
    exact hs

theorem operatorTexts_isEmpty (h : given.HasNoOperators) : given.operatorTexts.isEmpty := by
  rcases h with rfl | h
  · rfl
  · rw [Value.operatorTexts_of_sequence? h]
    rfl

theorem operatorTexts_ne_nil (h : given.IsOperators) : given.operatorTexts ≠ [] := by
  rcases h with ⟨s, rfl, _⟩ | ⟨items, hitems, hne, hall⟩
  · exact List.cons_ne_nil _ _
  · rw [Value.operatorTexts_of_sequence? hitems, ← map_operator_eq "" hall]
    exact fun hnil => hne (List.map_eq_nil_iff.mp hnil)

end TraitEntry
end StructureDerive
