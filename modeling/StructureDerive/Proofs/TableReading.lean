import StructureDerive.Host.Terminal
import StructureDerive.Proofs.Fault
import StructureDerive.Proofs.ParameterList
import StructureDerive.Proofs.Table
import StructureDerive.Proofs.TargetTable

/-! # Reading a target table

Whatever a target table holds, it is read, or turned down with a cause, with two exceptions. The
parameters of the target are gone through without a look at their shape, so a value that has no
elements ends the reading. And a message, or a key, may hold a value that cannot be written. A table
of parameters is taken for the list of its keys.
-/
namespace StructureDerive
open Outcome
variable {fields : List (Scalar × Value)} {position : Int} {d : Declaration} {cause : Cause}
variable {fault : Fault}

theorem Parameter.exists_text_of_ofValue {v : Value} {p : Parameter}
    (h : ofValue v = .ok p) : ∃ s, v = .text s := by
  unfold ofValue at h
  split at h
  · rename_i text htext
    obtain ⟨s, hs, _⟩ := Option.bind_eq_some_iff.mp htext
    exact ⟨s, Value.text?_eq_some_iff.mp hs⟩
  · cases h

theorem Generics.parameterValues_eq_error_iff {raw : Value} : parameterValues raw = .error fault ↔
    raw ≠ .null ∧ raw.elements? = none ∧ fault = .notEnumerable := by
  unfold parameterValues
  split
  · simp
  · simp [Value.elements?]
  · rename_i hnull _
    rw [Value.elements_eq_error_iff]
    exact (and_iff_right hnull).symm

section
variable [Host]

theorem TraitEntry.isWritable_of_parse {s : String} (h : parse s = .error cause) :
    cause.isWritable := by
  unfold parse at h
  split at h
  · cases h
    rfl
  · split at h
    · cases h
    · unfold ofCall at h
      dsimp only at h
      split at h
      · cases h
        rfl
      · rename_i inner? inner _
        split at h
        · cases h
          cases inner <;> rfl
        · cases h

namespace Parameter
variable {v : Value}

theorem isWritable_of_parse {s : String} (h : parse s = .error cause) : cause.isWritable := by
  unfold parse at h
  dsimp only at h
  split at h
  · split at h
    · cases h
      rfl
    · cases h
  · split at h
    · cases h
    · split at h
      · cases h
      · cases h
        rfl

/-- Only a parameter that is no text can keep the message about it from being written. -/
theorem exists_obstacle_ofValue_iff :
    (∃ cause, ofValue v = .error cause ∧ cause.obstacle? = some fault) ↔
      v.obstacle? = some fault := by
  unfold ofValue
  split
  · rename_i text htext
    obtain ⟨s, hs, _⟩ := Option.bind_eq_some_iff.mp htext
    obtain rfl := Value.text?_eq_some_iff.mp hs
    refine iff_of_false ?_ nofun
    rintro ⟨cause, hcause, hobstacle⟩
    cases hobstacle.symm.trans (Cause.isWritable_iff.mp (isWritable_of_parse hcause))
  · constructor
    · rintro ⟨_, ⟨⟩, h⟩
      exact h
    · exact fun h => ⟨_, rfl, h⟩

end Parameter

namespace Generics
variable {raw : Value} {g : Generics} {values : List Value}

/-- Parameters that cannot be gone through, or one that keeps the message about it from being
written. -/
inductive MeetsFault : Value → Fault → Prop where
  | whole {raw : Value} : raw ≠ .null → raw.elements? = none → MeetsFault raw .notEnumerable
  | parameter {raw v : Value} {before after : List Value} {fault : Fault} :
      parameterValues raw = .ok (before ++ v :: after) →
      (∀ b ∈ before, ∃ p, Parameter.ofValue b = .ok p) → v.obstacle? = some fault →
      MeetsFault raw fault

theorem parse_eq_fault_iff : Generics.parse raw = .error (.fault fault) ↔ MeetsFault raw fault := by
  unfold Generics.parse
  simp only [bind_eq_error_iff, liftM_fault_eq_fault_iff, liftM_fault_eq_ok_iff,
    liftM_cause_eq_fault_iff, parameterValues_eq_error_iff]
  constructor
  · rintro (⟨hnull, hnone, rfl⟩ | ⟨values, hvalues, ⟨cause, hcause, hobstacle⟩ | ⟨_, _, ⟨⟩⟩⟩)
    · exact .whole hnull hnone
    · obtain ⟨before, v, after, rfl, hbefore, hv⟩ := mapM_eq_error_iff.mp hcause
      exact .parameter hvalues hbefore
        (Parameter.exists_obstacle_ofValue_iff.mp ⟨cause, hv, hobstacle⟩)
  · rintro (⟨hnull, hnone⟩ | ⟨hvalues, hbefore, hv⟩)
    · exact Or.inl ⟨hnull, hnone, rfl⟩
    · obtain ⟨cause, hcause, hobstacle⟩ := Parameter.exists_obstacle_ofValue_iff.mpr hv
      exact Or.inr ⟨_, hvalues, Or.inl ⟨cause,
        mapM_eq_error_iff.mpr ⟨_, _, _, rfl, hbefore, hcause⟩, hobstacle⟩⟩

/-- The shapes in which parameters are meant to be written. -/
def IsParameterList (raw : Value) : Prop :=
  raw = .null ∨ (∃ s, raw = .text s) ∨ ∃ texts : List String, raw = .list (texts.map .text)

theorem exists_texts_of_parse (h : Generics.parse raw = .ok g)
    (hvalues : parameterValues raw = .ok values) : ∃ texts : List String, values = texts.map .text := by
  obtain ⟨values', hvalues', hread⟩ := parse_eq_ok_iff.mp h
  cases hvalues.symm.trans hvalues'
  clear hvalues hvalues' h
  generalize g.parameters = ps at hread
  induction hread with
  | nil => exact ⟨[], rfl⟩
  | cons hv _ ih =>
    obtain ⟨s, rfl⟩ := Parameter.exists_text_of_ofValue hv
    obtain ⟨texts, rfl⟩ := ih
    exact ⟨s :: texts, rfl⟩

/-- What is read is written in one of these shapes, or it is another value that is made of texts: a
tuple, a set, a table by its keys, or no bytes at all. -/
theorem isParameterList_of_parse (h : Generics.parse raw = .ok g) :
    IsParameterList raw ∨ ∃ texts : List String, raw.elements? = some (texts.map .text) := by
  by_cases hnull : raw = .null
  · exact Or.inl (Or.inl hnull)
  by_cases htext : ∃ s, raw = .text s
  · exact Or.inl (Or.inr (Or.inl htext))
  obtain ⟨values, hvalues, _⟩ := parse_eq_ok_iff.mp h
  obtain ⟨texts, rfl⟩ := exists_texts_of_parse h hvalues
  have helements : raw.elements? = some (texts.map .text) := by
    unfold parameterValues at hvalues
    split at hvalues
    · exact absurd rfl hnull
    · exact absurd ⟨_, rfl⟩ htext
    · exact Value.elements_eq_ok_iff.mp hvalues
  exact Or.inr ⟨texts, helements⟩

end Generics

namespace Declaration
variable {target : String} {v : Value}

/-- Entries whose key, or the message about them, cannot be written. -/
inductive HasObstacle : Value → Fault → Prop where
  | key {key : Scalar} {argument : Value} {fault : Fault} :
      (Value.scalar key).obstacle? = some fault → HasObstacle (.table [(key, argument)]) fault
  | other {v : Value} {fault : Fault} : (∀ s, v ≠ .text s) →
      (∀ key argument, v ≠ .table [(key, argument)]) → v.obstacle? = some fault →
      HasObstacle v fault

theorem traitEntry_eq_fault_iff :
    traitEntry target v = .error (.fault fault) ↔ HasObstacle v fault := by
  unfold traitEntry
  split
  · rename_i s
    refine iff_of_false (liftM_cause_ne_fault fun _ => TraitEntry.isWritable_of_parse) ?_
    rintro (_ | ⟨hno, _, _⟩)
    exact absurd rfl (hno s)
  · rename_i key argument
    simp only [bind_eq_error_iff, liftM_fault_eq_fault_iff, Value.plainText_eq_error_iff, pure,
      Except.pure, reduceCtorEq, and_false, exists_false, or_false]
    refine ⟨.key, ?_⟩
    rintro (hkey | ⟨_, hno, _⟩)
    · exact hkey
    · exact absurd rfl (hno key argument)
  · rename_i htext htable
    rw [throw_ofCause_eq_fault_iff]
    refine ⟨.other htext htable, ?_⟩
    rintro (_ | ⟨_, _, h⟩)
    · exact absurd rfl (htable _ _)
    · exact h

/-- The ways in which the reading of a target table meets a fault. Each takes for granted that all
that is read before has been accepted. -/
inductive MeetsFault (fields : List (Scalar × Value)) (position : Int) : Fault → Prop where
  | unnamed {fault : Fault} : name? fields = none →
      (Scalar.int position).obstacle? = some fault → MeetsFault fields position fault
  | entry {name : String} {before after : List Value} {v : Value} {fault : Fault} :
      name? fields = some name → traits? fields = some (before ++ v :: after) →
      (∀ b ∈ before, ∃ e, traitEntry name b = .ok e) → HasObstacle v fault →
      MeetsFault fields position fault
  | generics {name : String} {traits : List Value} {entries : List TraitEntry} {fault : Fault} :
      name? fields = some name → traits? fields = some traits →
      traitEntries name traits = .ok entries → Generics.MeetsFault (generics fields) fault →
      MeetsFault fields position fault

theorem isWritable_of_textList {subject : String} (h : textList subject v = .error cause) :
    cause.isWritable := by
  unfold textList at h
  split at h
  · cases h
  · cases h
  · split at h
    · cases h
    · cases h
      rfl
  · cases h
    rfl

theorem ofFields_eq_fault_iff :
    ofFields fields position = .error (.fault fault) ↔ MeetsFault fields position fault := by
  cases hname : name? fields with
  | none =>
    rw [ofFields_of_unnamed hname, throw_ofCause_eq_fault_iff, Cause.obstacle?,
      DeclarationIssue.obstacle?]
    constructor
    · exact .unnamed hname
    · rintro (⟨_, h⟩ | ⟨h, _⟩ | ⟨h, _⟩)
      · exact h
      · cases hname.symm.trans h
      · cases hname.symm.trans h
  | some name =>
    cases htraits : traits? fields with
    | none =>
      rw [ofFields_of_no_traits hname htraits, throw_ofCause_eq_fault_iff]
      constructor
      · rintro ⟨⟩
      · rintro (⟨h, _⟩ | ⟨_, h, _⟩ | ⟨_, h, _⟩)
        · cases hname.symm.trans h
        · cases htraits.symm.trans h
        · cases htraits.symm.trans h
    | some traits =>
      have hclauses : ∀ {subject : String} {v : Value},
          (liftM (textList subject v) : Except Failure (List String)) ≠ .error (.fault fault) :=
        liftM_cause_ne_fault fun _ => isWritable_of_textList
      rw [ofFields_of_named hname htraits]
      simp only [bind_eq_error_iff, Generics.parse_eq_fault_iff, hclauses, pure, Except.pure,
        reduceCtorEq, and_false, exists_false, or_false]
      constructor
      · rintro (hentries | ⟨entries, hentries, hgenerics⟩)
        · obtain ⟨before, v, after, rfl, hbefore, hv⟩ := mapM_eq_error_iff.mp hentries
          exact .entry hname htraits hbefore (traitEntry_eq_fault_iff.mp hv)
        · exact .generics hname htraits hentries hgenerics
      · rintro (⟨h, _⟩ | ⟨h, htraits', hbefore, hv⟩ | ⟨h, htraits', hentries, hgenerics⟩)
        · cases hname.symm.trans h
        · cases hname.symm.trans h
          cases htraits.symm.trans htraits'
          refine Or.inl (mapM_eq_error_iff.mpr ⟨_, _, _, rfl, hbefore, ?_⟩)
          exact traitEntry_eq_fault_iff.mpr hv
        · cases hname.symm.trans h
          cases htraits.symm.trans htraits'
          exact Or.inr ⟨_, hentries, hgenerics⟩

/-- A table of parameters is read as the list of its keys. -/
theorem ofFields_of_table {bounds : List (Scalar × Value)} (h : generics fields = .table bounds) :
    ofFields fields position =
      ofFields (Value.assign fields (.text "generics") (.list (bounds.map fun b => .scalar b.1)))
        position := by
  have hother : ∀ v key, key ≠ "generics" →
      Value.lookup (Value.assign fields (.text "generics") v) key = Value.lookup fields key :=
    fun v key hkey => Value.lookup_assign_of_ne hkey fields v
  have hparse : Generics.parse (generics fields) =
      Generics.parse (.list (bounds.map fun b => .scalar b.1)) := by
    rw [h]
    rfl
  unfold generics at hparse
  unfold ofFields
  simp only [hother _ "name" (by decide), hother _ "traits" (by decide),
    hother _ "where" (by decide), hother _ "quickcheck" (by decide), Value.lookup_assign_self,
    Option.getD_some, hparse]

/-- The reading of a target table meets a fault in the given ways alone, and else it gives a
declaration or a cause. What is read has its parameters in a text or in a list of texts, or in another
value that is made of texts, such as the keys of a table, whose values are passed over. -/
theorem reading_diagnosed_iff (fields : List (Scalar × Value)) (position : Int) :
    (∀ fault, ofFields fields position = .error (.fault fault) ↔
      MeetsFault fields position fault) ∧
    (∀ d, ofFields fields position = .ok d → Generics.IsParameterList (generics fields) ∨
      ∃ texts : List String, (generics fields).elements? = some (texts.map .text)) ∧
    ∀ bounds, generics fields = .table bounds → ofFields fields position =
      ofFields (Value.assign fields (.text "generics") (.list (bounds.map fun b => .scalar b.1)))
        position := by
  refine ⟨fun fault => ofFields_eq_fault_iff, fun d hd => ?_, fun bounds => ofFields_of_table⟩
  obtain ⟨_, _, _, g, _, _, _, _, hg, _⟩ := ofFields_eq_ok_iff.mp hd
  exact Generics.isParameterList_of_parse hg

end Declaration
end

attribute [local instance] Host.terminal

namespace Declaration

/-- A target table with a given value under `generics`. -/
def namedWithGenerics (given : Value) : List (Scalar × Value) :=
  [(.text "name", .text "W"), (.text "generics", given)]

theorem reading_of_table_of_bounds :
    let fields := namedWithGenerics (.table [(.text "T", .text "Clone")])
    (∃ d, ofFields fields 0 = .ok d ∧ ¬ Generics.IsParameterList (generics fields)) ∧
      ofFields fields 0 = ofFields (namedWithGenerics (.list [.text "T"])) 0 ∧
      ofFields (namedWithGenerics (.int 3)) 0 = .error (.fault .notEnumerable) := by
  intro fields
  have hno : ¬ Generics.IsParameterList (generics fields) := by
    rintro (h | ⟨_, h⟩ | ⟨_, h⟩) <;> cases h
  obtain ⟨_, _, hkeys⟩ := reading_diagnosed_iff fields 0
  have hread : ∃ d, ofFields fields 0 = .ok d := ⟨_, rfl⟩
  obtain ⟨d, hd⟩ := hread
  have hname : name? (namedWithGenerics (.int 3)) = some "W" := by decide +kernel
  have hfault := (reading_diagnosed_iff (namedWithGenerics (.int 3)) 0).1 .notEnumerable
  refine ⟨⟨d, hd, hno⟩, hkeys _ rfl, hfault.mpr ?_⟩
  exact .generics hname rfl rfl (.whole nofun rfl)

/-- A number cannot be gone through, and a table of bounds is read without them. -/
theorem generics_read_unchecked :
    ofFields (namedWithGenerics (.int 3)) 0 = .error (.fault .notEnumerable) ∧
      ∃ d, ofFields (namedWithGenerics (.table [(.text "T", .text "Clone")])) 0 = .ok d ∧
        d.target.generics.parameters = [{ kind := .type, name := "T" }] := by
  refine ⟨rfl, _, rfl, ?_⟩
  decide +kernel

end Declaration
end StructureDerive
