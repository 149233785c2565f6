import StructureDerive.Catalog.Document
import StructureDerive.Host.Terminal
import StructureDerive.Proofs.ExtensionFault
import StructureDerive.Proofs.LineEndings

/-! # Reading a catalog document

A catalog document is read, and the standard catalog extended by its kinds, or it is turned down with
a cause. Three values are not looked at before they are used: a value that has no elements in place of
a list of tables, an infinite number in place of an arity, and a value that cannot be written in place
of a name or in a message.
-/
namespace StructureDerive.Catalog
open Outcome
variable {fields : List (Scalar × Value)} {path kind subject : String}
variable {v : Value} {cause : Cause} {fault : Fault} {extra : List Entry}

/-- Causes that tell the reader what is wrong with a catalog document or with the catalog. -/
def IsDiagnosis : Cause → Prop
  | .declaration _ | .inconsistentCatalog _ => True
  | _ => False

/-- The failures that are faults or have such a cause. -/
def IsDiagnosed : Failure → Prop
  | .cause cause => IsDiagnosis cause
  | .fault _ => True

theorem failsIn_liftM_fault {α : Type} (x : Except Fault α) :
    FailsIn IsDiagnosed (liftM x : Except Failure α) := by
  intro failure h
  obtain ⟨fault, _, rfl⟩ := mapError_eq_error_iff.mp h
  trivial

section
variable [Host]

/-- Values in place of an integer that end the reading, an infinite one without a message. -/
inductive IntegerFault : Value → Fault → Prop where
  | infinite {negative : Bool} : IntegerFault (.real (.infinite negative)) .infiniteInteger
  | message {v : Value} {fault : Fault} : (∀ n, v ≠ .int n) → v.obstacle? = some fault →
      IntegerFault v fault

theorem integer_eq_fault_iff :
    integer subject v = .error (.fault fault) ↔ IntegerFault v fault := by
  have hrefused : (.error (Failure.ofCause (.declaration (.notInteger subject v))) :
      Except Failure Int) = .error (.fault fault) ↔ v.obstacle? = some fault :=
    throw_ofCause_eq_fault_iff
  have hwritable : v.obstacle? = none → (∀ negative, v ≠ .real (.infinite negative)) →
      ¬ IntegerFault v fault := by
    rintro hv hfinite (_ | ⟨_, hobstacle⟩)
    · exact hfinite _ rfl
    · cases hv.symm.trans hobstacle
  unfold integer
  split
  · rename_i n
    refine iff_of_false nofun ?_
    rintro (_ | ⟨hno, _⟩)
    exact hno n rfl
  · rename_i s
    refine iff_of_false ?_ (hwritable rfl nofun)
    cases Numeral.integer? s with
    | none => exact fun h => nomatch hrefused.mp h
    | some n => exact nofun
  · constructor
    · rintro ⟨⟩
      exact .infinite
    · rintro (_ | ⟨_, ⟨⟩⟩)
      rfl
  · rename_i x hfinite
    refine iff_of_false ?_ (hwritable rfl fun negative h => ?_)
    · cases x.truncated with
      | none => exact fun h => nomatch hrefused.mp h
      | some n => exact nofun
    · exact hfinite negative (Scalar.real.inj (Value.scalar.inj h))
  · rename_i hint _ hinfinite _
    rw [hrefused]
    refine ⟨.message hint, ?_⟩
    rintro (_ | ⟨_, hobstacle⟩)
    · exact absurd rfl (hinfinite _)
    · exact hobstacle

/-- A law whose arity ends the reading. -/
inductive LawFault : Value → Fault → Prop where
  | arity {fields : List (Scalar × Value)} {name : String} {fault : Fault} :
      (Value.lookup fields "name").bind Value.text? = some name →
      IntegerFault ((Value.lookup fields "arity").getD (.int 1)) fault →
      LawFault (.table fields) fault

theorem law_eq_fault_iff : law path kind v = .error (.fault fault) ↔ LawFault v fault := by
  have hshape : (throw (Failure.ofCause (.declaration (.lawShape path kind))) :
      Except Failure Law) ≠ .error (.fault fault) := nofun
  unfold law
  split
  · rename_i fields
    split
    · rename_i name hname
      rw [bind_eq_error_iff, integer_eq_fault_iff]
      constructor
      · rintro (h | ⟨_, _, ⟨⟩⟩)
        exact .arity hname h
      · rintro ⟨_, h⟩
        exact Or.inl h
    · rename_i hname
      refine iff_of_false hshape ?_
      rintro ⟨hsome, _⟩
      cases hname.symm.trans hsome
  · rename_i htable
    refine iff_of_false hshape ?_
    rintro ⟨_, _⟩
    exact htable _ rfl

theorem isWritable_of_kindNames (h : kindNames subject v = .error cause) : cause.isWritable := by
  unfold kindNames at h
  split at h
  · cases h
  · split at h
    · cases h
    · cases h
      rfl
  · cases h
    rfl

/-- The value that names the kind of a table. -/
def nameValue (fields : List (Scalar × Value)) : Value :=
  (Value.lookup fields "name").getD (.text "")

def kind? (fields : List (Scalar × Value)) : Option String :=
  (nameValue fields).plainText.toOption.bind Text.nonBlank?

def lawValues? (fields : List (Scalar × Value)) : Option (List Value) :=
  ((Value.lookup fields "properties").getD (.list [])).elements?

/-- The ways in which the reading of a kind table meets a fault. Each takes for granted that all that
is read before has been accepted. -/
inductive EntryFault (path : String) (fields : List (Scalar × Value)) : Fault → Prop where
  | name {fault : Fault} : (nameValue fields).obstacle? = some fault → EntryFault path fields fault
  | laws {kind : String} : kind? fields = some kind → lawValues? fields = none →
      EntryFault path fields .notEnumerable
  | law {kind : String} {before after : List Value} {v : Value} {fault : Fault} :
      kind? fields = some kind → lawValues? fields = some (before ++ v :: after) →
      (∀ b ∈ before, ∃ l, law path kind b = .ok l) → LawFault v fault →
      EntryFault path fields fault
  | arity {kind : String} {values : List Value} {laws : List Law} {fault : Fault} :
      kind? fields = some kind → lawValues? fields = some values →
      values.mapM (law path kind) = .ok laws →
      IntegerFault ((Value.lookup fields "arity").getD (.int 1)) fault →
      EntryFault path fields fault

theorem entryOfFields_of_obstacle (h : (nameValue fields).obstacle? = some fault) :
    entryOfFields path fields = .error (.fault fault) := by
  have hname : (nameValue fields).plainText = .error fault := Value.plainText_eq_error_iff.mpr h
  exact bind_eq_error_iff.mpr (Or.inl (liftM_fault_eq_fault_iff.mpr hname))

theorem entryOfFields_of_unnamed (h : (nameValue fields).isWritable) (hkind : kind? fields = none) :
    entryOfFields path fields = throw (.ofCause (.declaration (.unnamedKind path))) := by
  have hname := Value.plainText_eq_ok_iff.mpr ⟨h, rfl⟩
  have hblank : Text.nonBlank? (nameValue fields).plain = none := by
    rw [kind?, hname] at hkind
    exact hkind
  unfold nameValue at hname hblank
  unfold entryOfFields
  dsimp only
  rw [hname, liftM_fault_ok, pure_bind, hblank]

/-- With a name, what is left to end the reading are the laws and the arity: the messages about the
slots show no value. -/
theorem entryOfFields_eq_fault_iff_of_named (hkind : kind? fields = some kind) :
    entryOfFields path fields = .error (.fault fault) ↔
      (lawValues? fields = none ∧ fault = .notEnumerable) ∨
      ∃ values, lawValues? fields = some values ∧
        (values.mapM (law path kind) = .error (.fault fault) ∨
          ∃ laws, values.mapM (law path kind) = .ok laws ∧
            IntegerFault ((Value.lookup fields "arity").getD (.int 1)) fault) := by
  have hnames : ∀ {subject : String} {v : Value},
      (liftM (kindNames subject v) : Except Failure (List String)) ≠ .error (.fault fault) :=
    liftM_cause_ne_fault fun _ => isWritable_of_kindNames
  obtain ⟨name, hname, hkind⟩ := Option.bind_eq_some_iff.mp hkind
  have hname := toOption_eq_some_iff.mp hname
  unfold nameValue at hname
  unfold entryOfFields lawValues?
  dsimp only
  rw [hname, liftM_fault_ok, pure_bind, hkind]
  simp only [bind_eq_error_iff, liftM_fault_eq_fault_iff, liftM_fault_eq_ok_iff,
    Value.elements_eq_ok_iff, Value.elements_eq_error_iff, integer_eq_fault_iff, hnames, pure,
    Except.pure, reduceCtorEq, and_false, exists_false, or_false]

theorem entryOfFields_eq_fault_iff :
    entryOfFields path fields = .error (.fault fault) ↔ EntryFault path fields fault := by
  cases hkind : kind? fields with
  | none =>
    cases hobstacle : (nameValue fields).obstacle? with
    | some found =>
      rw [entryOfFields_of_obstacle hobstacle]
      constructor
      · rintro ⟨⟩
        exact .name hobstacle
      · rintro (h | ⟨h, _⟩ | ⟨h, _⟩ | ⟨h, _⟩)
        · cases hobstacle.symm.trans h
          rfl
        all_goals cases hkind.symm.trans h
    | none =>
      rw [entryOfFields_of_unnamed (Value.isWritable_iff.mpr hobstacle) hkind]
      refine iff_of_false nofun ?_
      rintro (h | ⟨h, _⟩ | ⟨h, _⟩ | ⟨h, _⟩)
      · cases hobstacle.symm.trans h
      all_goals cases hkind.symm.trans h
  | some kind =>
    have hwritable : (nameValue fields).obstacle? ≠ some fault := fun h => by
      rw [kind?, Value.plainText_eq_error_iff.mpr h] at hkind
      cases hkind
    rw [entryOfFields_eq_fault_iff_of_named hkind]
    constructor
    · rintro (⟨hnone, rfl⟩ | ⟨values, hvalues, hlaws | ⟨laws, hlaws, harity⟩⟩)
      · exact .laws hkind hnone
      · obtain ⟨before, v, after, rfl, hbefore, hv⟩ := mapM_eq_error_iff.mp hlaws
        exact .law hkind hvalues hbefore (law_eq_fault_iff.mp hv)
      · exact .arity hkind hvalues hlaws harity
    · rintro (h | ⟨h, hnone⟩ | ⟨h, hvalues, hbefore, hv⟩ | ⟨h, hvalues, hlaws, harity⟩)
      · exact absurd h hwritable
      · exact Or.inl ⟨hnone, rfl⟩
      · cases hkind.symm.trans h
        refine Or.inr ⟨_, hvalues, Or.inl (mapM_eq_error_iff.mpr ?_)⟩
        exact ⟨_, _, _, rfl, hbefore, law_eq_fault_iff.mpr hv⟩
      · cases hkind.symm.trans h
        exact Or.inr ⟨_, hvalues, Or.inr ⟨_, hlaws, harity⟩⟩

/-- The tables among some values. -/
def tables : List Value → List (List (Scalar × Value))
  | [] => []
  | .table fields :: rest => fields :: tables rest
  | _ :: rest => tables rest

theorem mapM_filter_isTable (path : String) (items : List Value) :
    (items.filter isTable).mapM (fun kind => do entryOfFields path (← kind.fields)) =
      (tables items).mapM (entryOfFields path) := by
  induction items with
  | nil => rfl
  | cons v items ih =>
    cases v with
    | table fields =>
      rw [List.filter_cons_of_pos rfl, List.mapM_cons, ih, tables, List.mapM_cons]
      rfl
    | _ => exact ih

def kindValues? (fields : List (Scalar × Value)) : Option (List Value) :=
  ((Value.lookup fields "kinds").getD (.list [])).elements?

/-- The ways in which the reading of the tables under `kinds` meets a fault. -/
inductive KindsFault (path : String) (fields : List (Scalar × Value)) : Fault → Prop where
  | kinds : kindValues? fields = none → KindsFault path fields .notEnumerable
  | entry {items : List Value} {before after : List (List (Scalar × Value))}
      {table : List (Scalar × Value)} {fault : Fault} : kindValues? fields = some items →
      tables items = before ++ table :: after →
      (∀ b ∈ before, ∃ e, entryOfFields path b = .ok e) → EntryFault path table fault →
      KindsFault path fields fault

theorem entriesOf_table (path : String) (fields : List (Scalar × Value)) :
    entriesOf path (.table fields) =
      liftM ((Value.lookup fields "kinds").getD (.list [])).elements >>= fun items =>
        (tables items).mapM (entryOfFields path) :=
  bind_congr (mapM_filter_isTable path)

theorem entriesOf_eq_fault_iff :
    entriesOf path (.table fields) = .error (.fault fault) ↔ KindsFault path fields fault := by
  simp only [entriesOf_table, bind_eq_error_iff, liftM_fault_eq_fault_iff, liftM_fault_eq_ok_iff,
    Value.elements_eq_ok_iff, Value.elements_eq_error_iff, mapM_eq_error_iff,
    entryOfFields_eq_fault_iff]
  constructor
  · rintro (⟨hnone, rfl⟩ | ⟨items, hitems, before, table, after, htables, hbefore, htable⟩)
    · exact .kinds hnone
    · exact .entry hitems htables hbefore htable
  · rintro (hnone | ⟨hitems, htables, hbefore, htable⟩)
    · exact Or.inl ⟨hnone, rfl⟩
    · exact Or.inr ⟨_, hitems, _, _, _, htables, hbefore, htable⟩

theorem isDiagnosed_ofCause (h : IsDiagnosis cause) : IsDiagnosed (.ofCause cause) := by
  unfold Failure.ofCause
  cases cause.obstacle? with
  | none => exact h
  | some fault => trivial

section Diagnosis
variable {α : Type}

theorem failsIn_ofCause (h : IsDiagnosis cause) :
    FailsIn IsDiagnosed (throw (.ofCause cause) : Except Failure α) := by
  rintro _ ⟨⟩
  exact isDiagnosed_ofCause h

theorem failsIn_integer (subject : String) (v : Value) : FailsIn IsDiagnosed (integer subject v) := by
  have hrefused : IsDiagnosed (.ofCause (.declaration (.notInteger subject v))) :=
    isDiagnosed_ofCause trivial
  intro failure h
  unfold integer at h
  split at h
  · cases h
  · rename_i s
    cases hs : Numeral.integer? s <;> rw [hs] at h <;> cases h
    exact hrefused
  · cases h
    trivial
  · rename_i x _
    cases hx : x.truncated <;> rw [hx] at h <;> cases h
    exact hrefused
  · cases h
    exact hrefused

theorem failsIn_law (path kind : String) (v : Value) : FailsIn IsDiagnosed (law path kind v) := by
  unfold law
  split
  · split
    · exact (failsIn_integer _ _).bind fun _ => failsIn_pure _
    · exact failsIn_ofCause trivial
  · exact failsIn_ofCause trivial

theorem failsIn_kindNames (subject : String) (v : Value) :
    FailsIn IsDiagnosed (liftM (kindNames subject v) : Except Failure (List String)) := by
  intro failure h
  obtain ⟨cause, hcause, rfl⟩ := mapError_eq_error_iff.mp h
  refine isDiagnosed_ofCause ?_
  unfold kindNames at hcause
  split at hcause
  · cases hcause
  · split at hcause <;> cases hcause
    trivial
  · cases hcause
    trivial

theorem failsIn_entryOfFields (path : String) (fields : List (Scalar × Value)) :
    FailsIn IsDiagnosed (entryOfFields path fields) := by
  refine (failsIn_liftM_fault _).bind fun name => ?_
  split
  · rename_i kind _
    refine (failsIn_liftM_fault _).bind fun values => ?_
    refine (FailsIn.mapM (failsIn_law path kind) values).bind fun laws => ?_
    refine (failsIn_integer _ _).bind fun arity => ?_
    refine (failsIn_kindNames _ _).bind fun slot0 => ?_
    refine (failsIn_kindNames _ _).bind fun slot1 => ?_
    exact (failsIn_kindNames _ _).bind fun joint => failsIn_pure _
  · exact failsIn_ofCause trivial

theorem failsIn_readEntries (path : String) (content : ByteArray) :
    FailsIn IsDiagnosed (readEntries path content) := by
  unfold readEntries
  split
  · refine (failsIn_liftM_fault _).bind fun fields => ?_
    refine (failsIn_liftM_fault _).bind fun items => ?_
    refine FailsIn.mapM (fun kind => ?_) _
    exact (failsIn_liftM_fault _).bind fun fields => failsIn_entryOfFields path fields
  · exact failsIn_ofCause trivial

theorem failsIn_extended (c : Catalog) (extra : List Entry) :
    FailsIn IsDiagnosed (c.extended extra) := by
  unfold extended
  dsimp only
  split
  · exact failsIn_pure _
  · exact (FailsIn.mapM (fun _ => failsIn_liftM_fault _) _).bind fun _ => failsIn_ofCause trivial

end Diagnosis

theorem exists_fields_of_parseBytes {content : ByteArray} (h : Toml.parseBytes content = some v) :
    ∃ fields, v = .table fields := by
  obtain ⟨s, _, h⟩ := Option.bind_eq_some_iff.mp h
  obtain ⟨d, _, rfl⟩ := Option.map_eq_some_iff.mp h
  exact ⟨d.fields, rfl⟩

/-- The ways in which the reading of a document, or the extension by what it holds, meets a fault. -/
inductive DocumentFault (path : String) (fields : List (Scalar × Value)) : Fault → Prop where
  | kinds {fault : Fault} : KindsFault path fields fault → DocumentFault path fields fault
  | extension {extra : List Entry} : entriesOf path (.table fields) = .ok extra →
      ¬ IsWritable ⟨replaceKnown standard.entries extra⟩ → DocumentFault path fields .tooManyDigits

theorem extended_entriesOf_eq_fault_iff :
    (entriesOf path (.table fields) >>= standard.extended) = .error (.fault fault) ↔
      DocumentFault path fields fault := by
  simp only [bind_eq_error_iff, entriesOf_eq_fault_iff, extended_eq_fault_iff]
  constructor
  · rintro (h | ⟨extra, hextra, hunwritable, rfl⟩)
    · exact .kinds h
    · exact .extension hextra hunwritable
  · rintro (h | ⟨hextra, hunwritable⟩)
    · exact Or.inl h
    · exact Or.inr ⟨_, hextra, hunwritable, rfl⟩

/-- A catalog document extends the standard catalog or is turned down with a cause that is about the
document or the catalog, unless it meets one of the faults. A document that cannot be parsed meets
none of them. -/
theorem extension_diagnosed_iff (path : String) (content : ByteArray) :
    (∀ fault, (readEntries path content >>= standard.extended) = .error (.fault fault) ↔
      ∃ fields, Toml.parseBytes content = some (.table fields) ∧
        DocumentFault path fields fault) ∧
    ∀ cause, (readEntries path content >>= standard.extended) = .error (.cause cause) →
      IsDiagnosis cause := by
  refine ⟨fun fault => ?_, fun cause h => ?_⟩
  · unfold readEntries
    split
    · rename_i document hdocument
      obtain ⟨fields, rfl⟩ := exists_fields_of_parseBytes hdocument
      rw [extended_entriesOf_eq_fault_iff, hdocument]
      simp
    · rename_i hnone
      rw [hnone]
      exact iff_of_false nofun nofun
  · exact (failsIn_readEntries path content).bind (failsIn_extended standard) _ h

theorem parseBytes_toUTF8 (s : String) : Toml.parseBytes s.toUTF8 = Toml.parse s := by
  rw [Toml.parseBytes, Text.fromUTF8?_toUTF8]
  rfl

/-- The fault that a step has met. -/
def fault? {α : Type} : Except Failure α → Option Fault
  | .error (.fault fault) => some fault
  | _ => none

theorem readEntries_eq_fault_of_parse {s : String}
    (h : ((Toml.parse s).bind fun v => fault? (entriesOf path v)) = some fault) :
    readEntries path s.toUTF8 = .error (.fault fault) := by
  obtain ⟨document, hdocument, hfault⟩ := Option.bind_eq_some_iff.mp h
  rw [readEntries, parseBytes_toUTF8, hdocument]
  dsimp only
  unfold fault? at hfault
  split at hfault
  · rename_i heq
    cases hfault
    exact heq
  · cases hfault

theorem readEntries_toUTF8 {s : String}
    (h : ((Toml.parse s).bind fun v => (entriesOf path v).toOption) = some extra) :
    readEntries path s.toUTF8 = .ok extra := by
  obtain ⟨document, hdocument, hentries⟩ := Option.bind_eq_some_iff.mp h
  rw [readEntries, parseBytes_toUTF8, hdocument]
  exact toOption_eq_some_iff.mp hentries

/-- The table of a document, with a property that is tested on it. -/
theorem exists_table_of_parse (s : String) (test : List (Scalar × Value) → Bool)
    (h : (Toml.parse s).any (fun v => v.fields.toOption.any test) = true) :
    ∃ fields, Toml.parse s = some (.table fields) ∧ test fields = true := by
  obtain ⟨v, hv, hshape⟩ := (Option.any_eq_true _ _).mp h
  obtain ⟨fields, hfields, htest⟩ := exists_ok_of_any hshape
  obtain rfl := Value.fields_eq_ok_iff.mp hfields
  exact ⟨fields, hv, htest⟩

end

attribute [local instance] Host.terminal

theorem parse_numberedKinds :
    ∃ fields, Toml.parse "kinds = 3\n" = some (.table fields) ∧ kindValues? fields = none := by
  obtain ⟨fields, hparse, hnone⟩ := exists_table_of_parse "kinds = 3\n"
    (fun fields => (kindValues? fields).isNone) (by decide +kernel)
  exact ⟨fields, hparse, Option.isNone_iff_eq_none.mp hnone⟩

/-- A document that cannot be parsed, and one with a number in place of the kinds. -/
theorem extension_of_malformed_and_numbered :
    (∃ cause, (readEntries "kinds.toml" "=\n".toUTF8 >>= standard.extended) =
      .error (.cause cause) ∧ IsDiagnosis cause) ∧
    (readEntries "kinds.toml" "kinds = 3\n".toUTF8 >>= standard.extended) =
      .error (.fault .notEnumerable) := by
  have hunparsed : Toml.parse "=\n" = none := Option.isNone_iff_eq_none.mp (by decide +kernel)
  have hmalformed : (readEntries "kinds.toml" "=\n".toUTF8 >>= standard.extended) =
      .error (.cause (.declaration (.malformedCatalog "kinds.toml"))) := by
    rw [readEntries, parseBytes_toUTF8, hunparsed]
    rfl
  obtain ⟨fields, hparse, hnone⟩ := parse_numberedKinds
  refine ⟨⟨_, hmalformed, (extension_diagnosed_iff _ _).2 _ hmalformed⟩, ?_⟩
  refine ((extension_diagnosed_iff _ _).1 _).mpr ⟨fields, ?_, .kinds (.kinds hnone)⟩
  rw [parseBytes_toUTF8, hparse]

/-- A number in place of the kinds ends the reading, and so does an infinite arity. -/
theorem unchecked_kinds_end_reading :
    (readEntries "kinds.toml" "kinds = 3\n".toUTF8 >>= standard.extended) =
      .error (.fault .notEnumerable) ∧
    (readEntries "kinds.toml" "[[kinds]]\nname = \"Band\"\narity = inf\n".toUTF8 >>=
      standard.extended) = .error (.fault .infiniteInteger) := by
  have hkinds : ((Toml.parse "kinds = 3\n").bind fun v =>
      fault? (entriesOf "kinds.toml" v)) = some .notEnumerable := by decide +kernel
  have harity : ((Toml.parse "[[kinds]]\nname = \"Band\"\narity = inf\n").bind fun v =>
      fault? (entriesOf "kinds.toml" v)) = some .infiniteInteger := by decide +kernel
  exact ⟨bind_eq_error_iff.mpr (Or.inl (readEntries_eq_fault_of_parse hkinds)),
    bind_eq_error_iff.mpr (Or.inl (readEntries_eq_fault_of_parse harity))⟩

end StructureDerive.Catalog
