import StructureDerive.Declaration.Document
import StructureDerive.Host.Terminal
import StructureDerive.Proofs.BatchIsolation

/-! # Isolation within a document

Only the derivation keeps the targets of a document apart. The tables are read before it, and the
first one that cannot be read ends the whole document, whatever the other tables hold.
-/
namespace StructureDerive
open Outcome
variable {path : String} {tables : List Value} {table : Value}
variable {c : Catalog} {options : Options} {withTests : Bool}

/-- A document with a list of targets. -/
def targetDocument (tables : List Value) : Value := .table [(.text "targets", .list tables)]

namespace Declaration
variable {d : Declaration} {ds : List Declaration} {fields : List (Scalar × Value)}

variable [Host]

theorem ofDocument_targetDocument (path : String) (tables : List Value) :
    ofDocument path (targetDocument tables) = ofTargets path 0 tables := by
  rfl

/-- The position of a table matters for the message about a missing name only. -/
theorem ofFields_eq_ok_of_position {position : Int} (other : Int)
    (h : ofFields fields position = .ok d) : ofFields fields other = .ok d := by
  unfold ofFields at h ⊢
  dsimp only at h ⊢
  split at h
  · exact h
  · cases h

theorem ofTargets_cons_eq_ok_iff {position : Nat} :
    ofTargets path position (table :: tables) = .ok ds ↔ ∃ fields d rest,
      table = .table fields ∧ ofFields fields 0 = .ok d ∧
      ofTargets path (position + 1) tables = .ok rest ∧ ds = d :: rest := by
  cases table with
  | scalar s => simp [ofTargets, throw_ne_ok]
  | list items => simp [ofTargets, throw_ne_ok]
  | tuple items => simp [ofTargets, throw_ne_ok]
  | set items => simp [ofTargets, throw_ne_ok]
  | table fields =>
    simp only [ofTargets, bind_eq_ok_iff, pure, Except.pure, Except.ok.injEq]
    constructor
    · rintro ⟨d, hd, rest, hrest, rfl⟩
      exact ⟨fields, d, rest, rfl, ofFields_eq_ok_of_position 0 hd, hrest, rfl⟩
    · rintro ⟨_, d, rest, ⟨⟩, hd, hrest, rfl⟩
      exact ⟨d, ofFields_eq_ok_of_position position hd, rest, hrest, rfl⟩

theorem ofTargets_singleton_eq_ok_iff {position : Nat} :
    ofTargets path position [table] = .ok ds ↔
      ∃ fields d, table = .table fields ∧ ofFields fields 0 = .ok d ∧ ds = [d] := by
  rw [ofTargets_cons_eq_ok_iff]
  simp [ofTargets, pure, Except.pure]

/-- The declarations of a list of tables are those of each table alone. -/
theorem ofTargets_eq_ok_iff {position : Nat} : ofTargets path position tables = .ok ds ↔
    ∃ parts, (tables.mapM fun table => ofDocument path (targetDocument [table])) = .ok parts ∧
      ds = parts.flatten := by
  induction tables generalizing position ds with
  | nil => simp [ofTargets, pure, Except.pure, eq_comm]
  | cons table tables ih =>
    rw [ofTargets_cons_eq_ok_iff]
    simp only [List.mapM_cons, bind_eq_ok_iff, ih, ofDocument_targetDocument,
      ofTargets_singleton_eq_ok_iff, pure, Except.pure, Except.ok.injEq]
    constructor
    · rintro ⟨fields, d, _, rfl, hd, ⟨parts, hparts, rfl⟩, rfl⟩
      exact ⟨_, ⟨_, ⟨fields, d, rfl, hd, rfl⟩, parts, hparts, rfl⟩, rfl⟩
    · rintro ⟨_, ⟨_, ⟨fields, d, rfl, hd, rfl⟩, parts, hparts, rfl⟩, rfl⟩
      exact ⟨fields, d, _, rfl, hd, ⟨parts, hparts, rfl⟩, rfl⟩

end Declaration

namespace Batch
variable {batch : Batch} {ds : List Declaration}

section
variable [Host]

/-- The batch of a document. -/
def ofDocument (path : String) (document : Value) (c : Catalog) (options : Options)
    (withTests : Bool) : Except Failure Batch := do
  derive (← Declaration.ofDocument path document) c options withTests

theorem ofDocument_eq_ok_iff {document : Value} :
    ofDocument path document c options withTests = .ok batch ↔
      ∃ ds, Declaration.ofDocument path document = .ok ds ∧
        derive ds c options withTests = .ok batch := by
  simp only [ofDocument, bind_eq_ok_iff, liftM_fault_eq_ok_iff]

theorem ofDocument_singleton_eq_ok_iff :
    ofDocument path (targetDocument [table]) c options withTests = .ok batch ↔ ∃ fields d,
      table = .table fields ∧ Declaration.ofFields fields 0 = .ok d ∧
        derive [d] c options withTests = .ok batch := by
  simp only [ofDocument_eq_ok_iff, Declaration.ofDocument_targetDocument,
    Declaration.ofTargets_singleton_eq_ok_iff]
  constructor
  · rintro ⟨_, ⟨fields, d, rfl, hd, rfl⟩, hbatch⟩
    exact ⟨fields, d, rfl, hd, hbatch⟩
  · rintro ⟨fields, d, rfl, hd, hbatch⟩
    exact ⟨_, ⟨fields, d, rfl, hd, rfl⟩, hbatch⟩

theorem derive_ofTargets_iff {position : Nat} :
    (∃ ds, Declaration.ofTargets path position tables = .ok ds ∧
      derive ds c options withTests = .ok batch) ↔ ∃ singles,
      (tables.mapM fun table => ofDocument path (targetDocument [table]) c options withTests) =
        .ok singles ∧ batch = concat singles := by
  -- on the tables in order; the position moves on with them, but no success depends on it
  induction tables generalizing position batch with
  | nil => simp [Declaration.ofTargets, derive, concat, pure, Except.pure, eq_comm]
  | cons table tables ih =>
    simp only [Declaration.ofTargets_cons_eq_ok_iff, List.mapM_cons, bind_eq_ok_iff,
      ofDocument_singleton_eq_ok_iff, pure, Except.pure, Except.ok.injEq]
    constructor
    · rintro ⟨_, ⟨fields, d, rest, rfl, hd, hrest, rfl⟩, hbatch⟩
      obtain ⟨single, _, hsingle, hderive, rfl⟩ := derive_cons_eq_ok_iff.mp hbatch
      obtain ⟨singles, hsingles, rfl⟩ := ih.mp ⟨rest, hrest, hderive⟩
      exact ⟨_, ⟨single, ⟨fields, d, rfl, hd, hsingle⟩, singles, hsingles, rfl⟩,
        concat_pair_concat single singles⟩
    · rintro ⟨_, ⟨single, ⟨fields, d, rfl, hd, hsingle⟩, singles, hsingles, rfl⟩, rfl⟩
      obtain ⟨rest, hrest, hderive⟩ : ∃ rest, Declaration.ofTargets path (position + 1) tables =
          .ok rest ∧ derive rest c options withTests = .ok _ := ih.mpr ⟨singles, hsingles, rfl⟩
      exact ⟨_, ⟨fields, d, rest, rfl, hd, hrest, rfl⟩, derive_cons_eq_ok_iff.mpr
        ⟨single, _, hsingle, hderive, (concat_pair_concat single singles).symm⟩⟩

/-- A document gives a batch when each of its tables alone does. -/
theorem ofDocument_targetDocument_eq_ok_iff :
    ofDocument path (targetDocument tables) c options withTests = .ok batch ↔ ∃ singles,
      (tables.mapM fun table => ofDocument path (targetDocument [table]) c options withTests) =
        .ok singles ∧ batch = concat singles := by
  rw [ofDocument_eq_ok_iff]
  exact derive_ofTargets_iff

/-- Each target that alone has a result has it in the batch of the whole document. -/
def Isolates (path : String) (tables : List Value) (c : Catalog) (options : Options)
    (withTests : Bool) : Prop :=
  ∀ table ∈ tables, ∀ result,
    ofDocument path (targetDocument [table]) c options withTests = .ok { results := [result] } →
      ∃ batch, ofDocument path (targetDocument tables) c options withTests = .ok batch ∧
        result ∈ batch.results

theorem isolates_of_singles
    (h : ∀ table ∈ tables, ∃ single,
      ofDocument path (targetDocument [table]) c options withTests = .ok single) :
    Isolates path tables c options withTests := by
  intro table htable result hresult
  have hsingles := (mapM_eq_ok_iff {}).mpr ⟨h, rfl⟩
  refine ⟨_, ofDocument_targetDocument_eq_ok_iff.mpr ⟨_, hsingles, rfl⟩, ?_⟩
  refine List.mem_flatMap.mpr ⟨_, List.mem_map_of_mem htable, ?_⟩
  rw [hresult]
  exact List.mem_singleton_self result

theorem isolates_iff : Isolates path tables c options withTests ↔
    (∀ table ∈ tables, ∃ single,
      ofDocument path (targetDocument [table]) c options withTests = .ok single) ∨
    (∀ table ∈ tables, ∀ result,
      ofDocument path (targetDocument [table]) c options withTests ≠
        .ok { results := [result] }) := by
  constructor
  · intro h
    refine Classical.or_iff_not_imp_right.mpr fun hsome => ?_
    obtain ⟨table, hsome⟩ := Classical.not_forall.mp hsome
    obtain ⟨htable, hsome⟩ := Classical.not_imp.mp hsome
    obtain ⟨result, hresult⟩ := Classical.not_forall.mp hsome
    obtain ⟨batch, hbatch, _⟩ := h table htable result (Classical.not_not.mp hresult)
    obtain ⟨singles, hsingles, _⟩ := ofDocument_targetDocument_eq_ok_iff.mp hbatch
    exact ((mapM_eq_ok_iff {}).mp hsingles).1
  · rintro (h | h)
    · exact isolates_of_singles h
    · exact fun table htable result hresult => absurd hresult (h table htable result)

theorem isolates_of_ofDocument {ds : List Declaration}
    (h : Declaration.ofDocument path (targetDocument tables) = .ok ds) (hc : c.IsWritable)
    (hds : ∀ d ∈ ds, d.IsWritable) : Isolates path tables c options withTests := by
  obtain ⟨singles, hsingles⟩ := exists_singles options withTests hc hds
  have hbatch := ofDocument_eq_ok_iff.mpr
    ⟨ds, h, (derive_eq_map_concat ds).trans (congrArg (Except.map concat) hsingles)⟩
  obtain ⟨alone, halone, _⟩ := ofDocument_targetDocument_eq_ok_iff.mp hbatch
  exact isolates_of_singles ((mapM_eq_ok_iff {}).mp halone).1

/-- A document is read exactly when each of its tables alone is read, and gives a batch exactly when
each of them alone gives one. So its targets are isolated only if each table alone gives a batch or
none of them has a result anyway; once all tables are read, no cause of one affects another. -/
theorem ofDocument_isolates (path : String) (tables : List Value) (c : Catalog)
    (options : Options) (withTests : Bool) :
    (∀ ds, Declaration.ofDocument path (targetDocument tables) = .ok ds ↔ ∃ parts,
      (tables.mapM fun table => Declaration.ofDocument path (targetDocument [table])) =
        .ok parts ∧ ds = parts.flatten) ∧
    (∀ batch, ofDocument path (targetDocument tables) c options withTests = .ok batch ↔ ∃ singles,
      (tables.mapM fun table => ofDocument path (targetDocument [table]) c options withTests) =
        .ok singles ∧ batch = concat singles) ∧
    (Isolates path tables c options withTests ↔
      (∀ table ∈ tables, ∃ single,
        ofDocument path (targetDocument [table]) c options withTests = .ok single) ∨
      (∀ table ∈ tables, ∀ result,
        ofDocument path (targetDocument [table]) c options withTests ≠
          .ok { results := [result] })) ∧
    (∀ ds, Declaration.ofDocument path (targetDocument tables) = .ok ds → c.IsWritable →
      (∀ d ∈ ds, d.IsWritable) → Isolates path tables c options withTests) :=
  ⟨fun _ => Declaration.ofTargets_eq_ok_iff, fun _ => ofDocument_targetDocument_eq_ok_iff,
    isolates_iff, fun _ => isolates_of_ofDocument⟩

end

/-- A target table with one trait entry. -/
def tableWith (name : String) (trait : Value) : Value :=
  .table [(.text "name", .text name), (.text "traits", .list [trait])]

/-- The table of `additiveGroup`. -/
def additiveTable : Value := tableWith "W" (.table [(.text "Group", .text "Additive")])

attribute [local instance] Host.terminal in
theorem isolates_beside_integer :
    let broken := tableWith "Broken" (.table [(.text "Group", .list [.int 3])])
    Declaration.ofDocument "d.yml" (targetDocument [additiveTable, broken]) =
        .ok [additiveGroup, integerGroup 3] ∧
      Catalog.standard.IsWritable ∧ (∀ d ∈ [additiveGroup, integerGroup 3], d.IsWritable) ∧
      Isolates "d.yml" [additiveTable, broken] Catalog.standard {} true := by
  intro broken
  have hload : Declaration.ofDocument "d.yml" (targetDocument [additiveTable, broken]) =
      .ok [additiveGroup, integerGroup 3] := rfl
  have hc : Catalog.standard.IsWritable := by decide +kernel
  obtain ⟨_, _, _, hisolates⟩ :=
    ofDocument_isolates "d.yml" [additiveTable, broken] Catalog.standard {} true
  exact ⟨hload, hc, isWritable_of_small_integer, hisolates _ hload hc isWritable_of_small_integer⟩

/-- A target whose only entry is a clause that is written like a call. -/
def calledClause : Value := tableWith "Broken" (.text "Where(T: Copy)")

theorem parse_calledClause : TraitEntry.parse "Where(T: Copy)" =
    .error (.malformedWhere (.text "T: Copy")) := by
  have hkey : TraitEntry.keyAndRest? "Where(T: Copy)".toList =
      some ("Where".toList, "(T: Copy)".toList) := by decide +kernel
  have hassigned : TraitEntry.assigned? "(T: Copy)".toList = none := by decide +kernel
  have hinner : TraitEntry.between? '(' ')' "(T: Copy)".toList = some "T: Copy".toList := by
    decide +kernel
  rw [TraitEntry.parse, hkey]
  dsimp only
  rw [hassigned]
  dsimp only
  rw [TraitEntry.ofCall, hinner]
  rfl

theorem ofDocument_calledClause [Host] :
    Declaration.ofDocument "d.yml" (targetDocument [additiveTable, calledClause]) =
      .error (.cause (.malformedWhere (.text "T: Copy"))) := by
  have htraits : Declaration.traitEntries "Broken" [.text "Where(T: Copy)"] =
      .error (.cause (.malformedWhere (.text "T: Copy"))) := by
    rw [Declaration.traitEntries, List.mapM_cons]
    exact bind_eq_error_iff.mpr (Or.inl (mapError_eq_error_iff.mpr
      ⟨_, parse_calledClause, Failure.ofCause_of_isWritable rfl⟩))
  rw [Declaration.ofDocument_targetDocument]
  refine bind_eq_error_iff.mpr (Or.inr ⟨additiveGroup, rfl, bind_eq_error_iff.mpr (Or.inl ?_)⟩)
  exact bind_eq_error_iff.mpr (Or.inl (bind_eq_error_iff.mpr (Or.inl htraits)))

attribute [local instance] Host.terminal in
/-- A clause that is written like a call is noticed while its table is read, so that the table in
front of it has no result either. -/
theorem not_isolates_beside_calledClause :
    (∃ result, ofDocument "d.yml" (targetDocument [additiveTable]) Catalog.standard {} true =
        .ok { results := [result] }) ∧
      ofDocument "d.yml" (targetDocument [additiveTable, calledClause]) Catalog.standard {} true =
        .error (.cause (.malformedWhere (.text "T: Copy"))) ∧
      ¬ Isolates "d.yml" [additiveTable, calledClause] Catalog.standard {} true := by
  obtain ⟨result, hderive⟩ := derive_additiveGroup
  have hload : Declaration.ofDocument "d.yml" (targetDocument [additiveTable]) =
      .ok [additiveGroup] := rfl
  have hresult := ofDocument_eq_ok_iff.mpr ⟨_, hload, hderive⟩
  have hwhole : ofDocument "d.yml" (targetDocument [additiveTable, calledClause])
      Catalog.standard {} true = .error (.cause (.malformedWhere (.text "T: Copy"))) :=
    bind_eq_error_iff.mpr (Or.inl ofDocument_calledClause)
  refine ⟨⟨result, hresult⟩, hwhole, fun h => ?_⟩
  obtain ⟨batch, hbatch, _⟩ := h additiveTable List.mem_cons_self result hresult
  rw [hwhole] at hbatch
  cases hbatch

end Batch
end StructureDerive
