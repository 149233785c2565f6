import StructureDerive.Host.Terminal
import StructureDerive.Proofs.CatalogExtension
import StructureDerive.Proofs.CatalogReading
import StructureDerive.Proofs.CommaList
import StructureDerive.Proofs.Consistency
import StructureDerive.Proofs.EntryGrammar
import StructureDerive.Proofs.EntrySpelling

/-! # Kinds that can be declared

A catalog takes every name that is not blank, while compact text begins with an identifier and one
key is kept for clauses. So a kind of a catalog can be declared in compact text exactly when its name
is an identifier other than that key, and as a table exactly when it is not the key.
-/
namespace StructureDerive
open Outcome Text

theorem commaList_cons (op : String) (ops : List String) :
    commaList (op :: ops) = ",".intercalate (op :: ops.map (" " ++ ·)) := by
  have hjoin : ∀ (p : List Char) (ps : List (List Char)), ", ".toList.intercalate (p :: ps) =
      ",".toList.intercalate (p :: ps.map (' ' :: ·)) := by
    intro p ps
    induction ps generalizing p with
    | nil => rfl
    | cons q ps ih =>
      rw [List.map_cons, List.intercalate_cons_cons, List.intercalate_cons_cons, ih q]
      cases ps with
      | nil => simp
      | cons r ps => simp
  rw [← String.toList_inj, toList_commaList, String.toList_intercalate, List.map_cons,
    List.map_cons, hjoin]
  simp [Function.comp_def]

namespace TraitEntry
variable {c : Catalog} {e : TraitEntry} {entry : Entry} {r : Request}
variable {kind path s : String} {ops : List String} {content : ByteArray}

/-- The compact text of a kind with its operators, as in `Field(Additive, Multiplicative)`. -/
def compactText (kind : String) (ops : List String) : String :=
  kind ++ "(" ++ commaList ops ++ ")"

/-- The table of a kind with its operators. -/
def kindTable (kind : String) (ops : List String) : Value :=
  .table [(.text kind, .list (ops.map .text))]

/-- A value is read as one entry, which on its own makes one request, for a kind with operators. -/
def AsksFor [Host] (c : Catalog) (target kind : String) (ops : List String) (v : Value) : Prop :=
  ∃ e, Declaration.traitEntry target v = .ok e ∧
    requests c [e] = .ok [{ kind, operators := ops, index := 0 }]

theorem operatorTexts_commaList (hne : ops ≠ []) (hpaths : ∀ op ∈ ops, IsIdentifierPath op.toList) :
    operatorTexts (commaList ops).toList = ops := by
  cases ops with
  | nil => exact absurd rfl hne
  | cons op ops =>
    obtain ⟨hop, hops⟩ := List.forall_mem_cons.mp hpaths
    have hblank : ∀ op, strip (" " ++ op) = strip op := by
      intro op
      have hspace : Blanks [' '] := by simp [Blanks, isBlank]
      rw [strip, String.toList_append]
      exact congrArg String.ofList (trim_blanks_append hspace op.toList)
    have hkept : ∀ x ∈ ops, (strip ∘ (" " ++ ·)) x = x := fun x hx =>
      (hblank x).trans (strip_of_path (hops x hx))
    have hstrip : (op :: ops.map (" " ++ ·)).map strip = op :: ops := by
      rw [List.map_cons, strip_of_path hop, List.map_map, List.map_congr_left hkept, List.map_id']
    have hstripped : ∀ s ∈ op :: ops.map (" " ++ ·), IsIdentifierPath (strip s).toList := by
      intro s hs
      exact hpaths _ (hstrip ▸ List.mem_map_of_mem hs)
    rw [commaList_cons, operatorTexts_intercalate (List.cons_ne_nil _ _) hstripped, hstrip]

theorem toList_compactText (kind : String) (ops : List String) : (compactText kind ops).toList =
    [] ++ (kind.toList ++ ([] ++ '(' :: ((commaList ops).toList ++ ')' :: []))) := by
  simp [compactText]

theorem parse_compactText (hkind : isIdentifier kind.toList) (hkey : kind ≠ whereKey)
    (hne : ops ≠ []) (hpaths : ∀ op ∈ ops, IsIdentifierPath op.toList) :
    parse (compactText kind ops) = .ok ⟨kind, .list (ops.map .text)⟩ := by
  have hblanks : Blanks [] := List.forall_mem_nil _
  have hparse := parse_called hkind hkey (commaList ops).toList hblanks hblanks hblanks
    (toList_compactText kind ops)
  rwa [operatorTexts_commaList hne hpaths] at hparse

theorem isIdentifier_of_keyAndRest? {cs key rest : List Char}
    (h : keyAndRest? cs = some (key, rest)) : isIdentifier key := by
  unfold keyAndRest? at h
  split at h
  · cases h
  · split at h
    · rename_i hstart
      cases h
      rw [isIdentifier, Bool.and_eq_true, List.all_eq_true]
      exact ⟨hstart, fun c hc => List.mem_takeWhile_imp hc⟩
    · cases h

theorem key_ofAssigned (key value : String) : (ofAssigned key value).key = key := by
  unfold ofAssigned
  split <;> rfl

theorem key_of_ofCall {key : String} {rest : List Char} (h : ofCall s key rest = .ok e) :
    e.key = key := by
  unfold ofCall at h
  dsimp only at h
  split at h
  · cases h
  · split at h
    · cases h
    · cases h
      rfl

/-- Compact text never gives an entry under a key that is no identifier. -/
theorem isIdentifier_of_parse (h : parse s = .ok e) : isIdentifier e.key.toList := by
  unfold parse at h
  split at h
  · cases h
  · rename_i key rest hsplit
    have hkey : e.key = String.ofList key := by
      split at h
      · cases h
        exact key_ofAssigned _ _
      · exact key_of_ofCall h
    rw [hkey, String.toList_ofList]
    exact isIdentifier_of_keyAndRest? hsplit

theorem requests_singleton_eq_ok_iff :
    requests c [e] = .ok [r] ↔ e.key ≠ whereKey ∧ request c 0 e = .ok r := by
  rw [requests, requestsFrom]
  split
  · rename_i hwhere
    exact iff_of_false (by rintro ⟨⟩) fun h => h.1 hwhere
  · rename_i hkey
    rw [map_eq_ok_iff]
    simp [hkey]

section
variable [Host]

theorem asksFor_table_iff {target : String} (hfind : c.find? kind = some entry) (hne : ops ≠ [])
    (hpaths : ∀ op ∈ ops, IsIdentifierPath op.toList) :
    AsksFor c target kind ops (kindTable kind ops) ↔ kind ≠ whereKey := by
  constructor
  · rintro ⟨_, ⟨⟩, hrequests⟩
    exact (requests_singleton_eq_ok_iff.mp hrequests).1
  · intro hkey
    refine ⟨_, traitEntry_table kind _ target, requests_singleton_eq_ok_iff.mpr ⟨hkey, ?_⟩⟩
    have hlookup : c.lookup kind = .ok entry := Catalog.lookup_eq_ok_iff.mpr hfind
    have hempty : ops.isEmpty = false := by simpa using hne
    rw [request, hlookup, operators_of_paths kind hpaths]
    simp [bind, Except.bind, hempty, pure, Except.pure]

theorem traitEntry_text_eq_ok_iff {target : String} :
    Declaration.traitEntry target (.text s) = .ok e ↔ parse s = .ok e := liftM_cause_eq_ok_iff

theorem key_of_asksFor {target : String} (h : AsksFor c target kind ops (.text s)) :
    isIdentifier kind.toList ∧ kind ≠ whereKey := by
  obtain ⟨e, he, hrequests⟩ := h
  obtain ⟨hkey, hrequest⟩ := requests_singleton_eq_ok_iff.mp hrequests
  obtain ⟨_, hmade⟩ := (request_eq_ok_iff hkey).mp hrequest
  obtain rfl : kind = e.key := congrArg Request.kind hmade
  exact ⟨isIdentifier_of_parse (traitEntry_text_eq_ok_iff.mp he), hkey⟩

theorem asksFor_compactText_iff {target : String} (hfind : c.find? kind = some entry)
    (hne : ops ≠ []) (hpaths : ∀ op ∈ ops, IsIdentifierPath op.toList) :
    AsksFor c target kind ops (.text (compactText kind ops)) ↔
      isIdentifier kind.toList ∧ kind ≠ whereKey := by
  refine ⟨key_of_asksFor, ?_⟩
  rintro ⟨hkind, hkey⟩
  have htable : AsksFor c target kind ops (kindTable kind ops) :=
    (asksFor_table_iff hfind hne hpaths).mpr hkey
  obtain ⟨e, he, hrequests⟩ := htable
  cases he
  exact ⟨_, traitEntry_text (parse_compactText hkind hkey hne hpaths) target, hrequests⟩

end

/-- Operators in round brackets after the key of a clause are taken for an ill-formed clause. -/
theorem parse_compactText_where (ops : List String) :
    parse (compactText whereKey ops) = .error (.malformedWhere (.text (commaList ops))) := by
  have hblanks : Blanks [] := List.forall_mem_nil _
  have hkey : isIdentifier whereKey.toList := by decide
  rw [parse, toList_compactText,
    keyAndRest?_spelled hkey hblanks hblanks (by decide) (by decide)]
  dsimp only [assigned?]
  rw [ofCall, if_neg (by simp), between?_spelled (by decide) hblanks]
  simp

section
variable [Host]

theorem traitEntry_compactText_where (target : String) (ops : List String) :
    Declaration.traitEntry target (.text (compactText whereKey ops)) =
      .error (.cause (.malformedWhere (.text (commaList ops)))) :=
  mapError_eq_error_iff.mpr ⟨_, parse_compactText_where ops, Failure.ofCause_of_isWritable rfl⟩

theorem requests_table_where (c : Catalog) (target : String) (ops : List String) :
    ∃ e, Declaration.traitEntry target (kindTable whereKey ops) = .ok e ∧
      requests c [e] = .error .leadingWhere := ⟨_, rfl, rfl⟩

/-- Kinds of a consistent extension take one operator or two. -/
theorem operators_ne_nil {base : Catalog} {extra : List Entry} (h : base.extended extra = .ok c)
    (hfind : c.find? kind = some entry) (hlen : (ops.length : Int) = entry.arity) : ops ≠ [] := by
  obtain ⟨_, hconsistent⟩ := Catalog.extended_eq_ok_iff.mp h
  have hmem := (Catalog.mem_of_find? hfind).1
  have hclosed := Catalog.inconsistencies_eq_nil_iff.mp hconsistent entry hmem
  rintro rfl
  rcases hclosed.arity with hone | htwo
  · simp [hone] at hlen
  · simp [htwo] at hlen

/-- In a catalog that a document extends, a kind can be declared in compact text exactly when its
name is an identifier that is not kept for clauses, and as a table exactly when it is not kept for
them. Otherwise the text is read as a clause, or under no key or another one. -/
theorem kinds_declarable_iff
    (h : (Catalog.readEntries path content >>= Catalog.standard.extended) = .ok c)
    (hfind : c.find? kind = some entry) (hlen : (ops.length : Int) = entry.arity)
    (hpaths : ∀ op ∈ ops, isPath op.toList) (target : String) :
    (AsksFor c target kind ops (.text (compactText kind ops)) ↔
      isIdentifier kind.toList ∧ kind ≠ whereKey) ∧
    (AsksFor c target kind ops (kindTable kind ops) ↔ kind ≠ whereKey) ∧
    (kind = whereKey →
      Declaration.traitEntry target (.text (compactText kind ops)) =
        .error (.cause (.malformedWhere (.text (commaList ops)))) ∧
      ∃ e, Declaration.traitEntry target (kindTable kind ops) = .ok e ∧
        requests c [e] = .error .leadingWhere) ∧
    (isIdentifier kind.toList = false → ∀ e,
      Declaration.traitEntry target (.text (compactText kind ops)) = .ok e → e.key ≠ kind) := by
  obtain ⟨extra, _, hextended⟩ := bind_eq_ok_iff.mp h
  have hne := operators_ne_nil hextended hfind hlen
  have hpaths : ∀ op ∈ ops, IsIdentifierPath op.toList := fun op hop => isPath_iff.mp (hpaths op hop)
  refine ⟨asksFor_compactText_iff hfind hne hpaths, asksFor_table_iff hfind hne hpaths, ?_, ?_⟩
  · rintro rfl
    exact ⟨traitEntry_compactText_where target ops, requests_table_where c target ops⟩
  · rintro hkind e he rfl
    cases hkind.symm.trans (isIdentifier_of_parse (traitEntry_text_eq_ok_iff.mp he))

end

attribute [local instance] Host.terminal

theorem kinds_declarable_of_padded_name :
    let document := "[[kinds]]\nname = \" Division \"\narity = 2\nslot1 = [\"Quasigroup\"]\n"
    let division : Entry := { kind := "Division", arity := 2, slot1 := ["Quasigroup"] }
    let ops := ["ops::Add", "Multiplicative"]
    ∃ c, (Catalog.readEntries "kinds.toml" document.toUTF8 >>= Catalog.standard.extended) = .ok c ∧
      c.find? "Division" = some division ∧ (ops.length : Int) = division.arity ∧
      (∀ op ∈ ops, isPath op.toList) ∧
      AsksFor c "W" "Division" ops (.text "Division(ops::Add, Multiplicative)") ∧
      AsksFor c "W" "Division" ops (kindTable "Division" ops) := by
  intro document division ops
  have hread : Catalog.readEntries "kinds.toml" document.toUTF8 = .ok [division] :=
    Catalog.readEntries_toUTF8 (by decide +kernel)
  have hextended : Catalog.standard.extended [division] =
      .ok ⟨Catalog.replaceKnown Catalog.standard.entries [division]⟩ :=
    Catalog.extended_eq_ok_iff.mpr ⟨rfl, by decide +kernel⟩
  have hcatalog := bind_eq_ok_iff.mpr ⟨_, hread, hextended⟩
  have hfind : Catalog.find? ⟨Catalog.replaceKnown Catalog.standard.entries [division]⟩ "Division" =
      some division := by decide +kernel
  have hpaths : ∀ op ∈ ops, isPath op.toList := by decide
  obtain ⟨htext, htable, _⟩ := kinds_declarable_iff hcatalog hfind rfl hpaths "W"
  exact ⟨_, hcatalog, hfind, rfl, hpaths, htext.mpr (by decide), htable.mpr (by decide)⟩

/-- A kind of the name that is kept for clauses is accepted, and so is a name of two words. The
first can be declared in no way, and the second not in compact text. -/
theorem accepted_kinds_not_declarable :
    let document := "[[kinds]]\nname = \"Where\"\n\n[[kinds]]\nname = \"Left zero\"\n"
    let kept : Entry := { kind := "Where", arity := 1 }
    let zero : Entry := { kind := "Left zero", arity := 1 }
    ∃ c, (Catalog.readEntries "kinds.toml" document.toUTF8 >>= Catalog.standard.extended) = .ok c ∧
      c.find? "Where" = some kept ∧ c.find? "Left zero" = some zero ∧ isPath "Additive".toList ∧
      ¬ AsksFor c "W" "Where" ["Additive"] (.text "Where(Additive)") ∧
      ¬ AsksFor c "W" "Where" ["Additive"] (kindTable "Where" ["Additive"]) ∧
      ¬ AsksFor c "W" "Left zero" ["Additive"] (.text "Left zero(Additive)") := by
  intro document kept zero
  have hread : Catalog.readEntries "kinds.toml" document.toUTF8 = .ok [kept, zero] :=
    Catalog.readEntries_toUTF8 (by decide +kernel)
  have hextended : Catalog.standard.extended [kept, zero] =
      .ok ⟨Catalog.replaceKnown Catalog.standard.entries [kept, zero]⟩ :=
    Catalog.extended_eq_ok_iff.mpr ⟨rfl, by decide +kernel⟩
  refine ⟨_, bind_eq_ok_iff.mpr ⟨_, hread, hextended⟩, by decide +kernel, by decide +kernel,
    by decide, fun h => (key_of_asksFor h).2 rfl, ?_, fun h => ?_⟩
  · rintro ⟨_, ⟨⟩, hrequests⟩
    exact (requests_singleton_eq_ok_iff.mp hrequests).1 rfl
  · exact absurd (key_of_asksFor h).1 (by decide)

end TraitEntry
end StructureDerive
