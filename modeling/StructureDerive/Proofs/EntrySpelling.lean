import StructureDerive.Catalog.Standard
import StructureDerive.Declaration.Target
import StructureDerive.Host.Terminal
import StructureDerive.Proofs.EntryArgument
import StructureDerive.Proofs.Trimming

/-! # The spellings of a trait entry

A kind with its operators is written as a call, as a table of one key, or for one operator as an
assignment or a table with a lone text. All of them ask for the same request, wherever they stand in
a list of entries. A clause is taken as it is written, whatever it holds.
-/
namespace StructureDerive
open Outcome Text
variable {c : Catalog} {index : Nat} {key text : String} {ops texts : List String}
variable {name a b d f inner rest : List Char}

namespace TraitEntry

/-- An identifier ends where blanks or a separator follow. -/
theorem identifier_stops {sep : Char} (hb : Blanks b) (hrest : isIdentifierRest sep = false)
    (rest : List Char) : (b ++ sep :: rest).takeWhile isIdentifierRest = [] ∧
      (b ++ sep :: rest).dropWhile isIdentifierRest = b ++ sep :: rest := by
  have hstop : ∀ x cs, isIdentifierRest x = false → (x :: cs).takeWhile isIdentifierRest = [] ∧
      (x :: cs).dropWhile isIdentifierRest = x :: cs := by
    intro x cs hx
    exact ⟨List.takeWhile_cons_of_neg (by simp [hx]), List.dropWhile_cons_of_neg (by simp [hx])⟩
  cases b with
  | nil => exact hstop sep rest hrest
  | cons x b =>
    have hx : isBlank x = true := hb x List.mem_cons_self
    refine hstop x (b ++ sep :: rest) ?_
    by_contra hidentifier
    rw [isBlank_of_isIdentifierRest (by simpa using hidentifier)] at hx
    cases hx

theorem keyAndRest?_spelled {sep : Char} (hname : isIdentifier name) (ha : Blanks a)
    (hb : Blanks b) (hrest : isIdentifierRest sep = false) (hsep : isBlank sep = false) :
    keyAndRest? (a ++ (name ++ (b ++ sep :: rest))) = some (name, sep :: rest) := by
  cases name with
  | nil => cases hname
  | cons k name =>
    have hk : isBlank k = false := isBlank_of_mem_identifier hname List.mem_cons_self
    rw [isIdentifier, Bool.and_eq_true, List.all_eq_true] at hname
    obtain ⟨htake, hdrop⟩ := identifier_stops hb hrest rest
    rw [keyAndRest?, trimLeft_blanks_append ha, List.cons_append, trimLeft_cons hk]
    dsimp only
    rw [if_pos hname.1, List.takeWhile_append_of_pos hname.2, List.dropWhile_append_of_pos hname.2,
      htake, hdrop, List.append_nil, trimLeft_blanks_append hb, trimLeft_cons hsep]

theorem between?_spelled {opening closing : Char} (hclosing : isBlank closing = false)
    (hd : Blanks d) :
    between? opening closing (opening :: (inner ++ closing :: d)) = some inner := by
  have htrim : trimRight (inner ++ closing :: d) = inner ++ [closing] := by
    rw [List.append_cons, trimRight_append_blanks _ hd, trimRight_concat hclosing]
  rw [between?, htrim, List.getLast?_concat, if_pos ⟨rfl, rfl⟩, List.dropLast_concat]

theorem parse_called {kind s : String} (hkind : isIdentifier kind.toList) (hkey : kind ≠ whereKey)
    (inner : List Char) (ha : Blanks a) (hb : Blanks b) (hd : Blanks d)
    (hs : s.toList = a ++ (kind.toList ++ (b ++ '(' :: (inner ++ ')' :: d)))) :
    parse s = .ok ⟨kind, .list ((operatorTexts inner).map .text)⟩ := by
  rw [parse, hs, keyAndRest?_spelled hkind ha hb (by decide) (by decide)]
  dsimp only [assigned?]
  rw [ofCall, if_neg (by simp), between?_spelled (by decide) hd, String.ofList_toList]
  simp [hkey]

/-- A value in quotes is read as it stands, even with quotes in it. -/
theorem parse_assigned {kind s : String} (hkind : isIdentifier kind.toList) (text : String)
    (ha : Blanks a) (hb : Blanks b) (hd : Blanks d) (hf : Blanks f)
    (hs : s.toList =
      a ++ (kind.toList ++ (b ++ '=' :: (d ++ '"' :: (text.toList ++ '"' :: f))))) :
    parse s = .ok (ofAssigned kind text) := by
  have hassigned : assigned? ('=' :: (d ++ '"' :: (text.toList ++ '"' :: f))) =
      some text.toList := by
    rw [assigned?, trimLeft_blanks_append hd, trimLeft_cons (by decide)]
    exact between?_spelled (by decide) hf
  rw [parse, hs, keyAndRest?_spelled hkind ha hb (by decide) (by decide)]
  dsimp only
  rw [hassigned]
  dsimp only
  rw [String.ofList_toList, String.ofList_toList]

theorem comma_not_mem {s : String} (h : IsIdentifierPath (strip s).toList) : ',' ∉ s.toList := by
  have hblank : isBlank ',' = false := by decide
  obtain ⟨l, r, hl, hr, hs⟩ := exists_blanks_around s.toList
  intro hmem
  rw [hs, List.mem_append, List.mem_append] at hmem
  rcases hmem with (hmem | hmem) | hmem
  · simp [hl ',' hmem] at hblank
  · rw [strip, String.toList_ofList] at h
    have hpath := isIdentifierRest_or_eq_colon_of_mem h hmem
    revert hpath
    decide
  · simp [hr ',' hmem] at hblank

theorem trim_ne_nil {s : String} (h : IsIdentifierPath (strip s).toList) : trim s.toList ≠ [] := by
  intro hnil
  rw [strip, String.toList_ofList, hnil] at h
  exact not_isIdentifierPath_nil h

theorem operatorTexts_intercalate (hne : texts ≠ [])
    (hpaths : ∀ s ∈ texts, IsIdentifierPath (strip s).toList) :
    operatorTexts (",".intercalate texts).toList = texts.map strip := by
  have hcomma : ∀ cs ∈ texts.map String.toList, ',' ∉ cs := by
    intro cs hcs
    obtain ⟨s, hs, rfl⟩ := List.mem_map.mp hcs
    exact comma_not_mem (hpaths s hs)
  have hsplit : (",".intercalate texts).toList.splitOn ',' = texts.map String.toList := by
    rw [String.toList_intercalate]
    exact List.splitOn_intercalate ',' hcomma (by simpa using hne)
  have hfilter : ((texts.map String.toList).map trim).filter (!·.isEmpty) =
      (texts.map String.toList).map trim := by
    rw [List.filter_eq_self]
    intro cs hcs
    rw [List.map_map] at hcs
    obtain ⟨s, hs, rfl⟩ := List.mem_map.mp hcs
    simpa using trim_ne_nil (hpaths s hs)
  rw [operatorTexts, hsplit, hfilter, List.map_map, List.map_map]
  rfl

/-- The values that write a kind with its operators, blanks aside. -/
inductive Spells (kind : String) (ops : List String) : Value → Prop where
  | call {a b d : String} {texts : List String} : allBlank a → allBlank b → allBlank d →
      texts.map strip = ops →
      Spells kind ops (.text (a ++ kind ++ b ++ "(" ++ ",".intercalate texts ++ ")" ++ d))
  | list {texts : List String} : texts.map strip = ops →
      Spells kind ops (.table [(.text kind, .list (texts.map .text))])
  | lone {text : String} : [strip text] = ops → Spells kind ops (.table [(.text kind, .text text)])
  | assigned {a b d f text : String} : allBlank a → allBlank b → allBlank d → allBlank f →
      [strip text] = ops →
      Spells kind ops (.text (a ++ kind ++ b ++ "=" ++ d ++ "\"" ++ text ++ "\"" ++ f))

theorem operators_list (kind : String) (hpaths : ∀ s ∈ texts, IsIdentifierPath (strip s).toList) :
    operators kind (.list (texts.map .text)) = .ok (texts.map strip) := by
  refine operators_eq_ok_iff.mpr ⟨(Value.accepted_sequence_iff rfl).mpr fun v hv => ?_, ?_⟩
  · obtain ⟨s, hs, rfl⟩ := List.mem_map.mp hv
    exact ⟨s, rfl, hpaths s hs⟩
  · rw [Value.operatorTexts, List.filterMap_map]
    exact (List.filterMap_eq_map_iff_forall_eq_some.mpr fun s _ => rfl).symm

theorem strip_of_path {op : String} (h : IsIdentifierPath op.toList) : strip op = op := by
  have hall : ∀ c ∈ op.toList, isBlank c = false := by
    intro c hc
    rcases isIdentifierRest_or_eq_colon_of_mem h hc with hrest | rfl
    · exact isBlank_of_isIdentifierRest hrest
    · decide
  rw [strip, (isTrimmed_of_forall hall).trim_eq, String.ofList_toList]

theorem operators_of_paths (kind : String) (h : ∀ op ∈ ops, IsIdentifierPath op.toList) :
    operators kind (.list (ops.map .text)) = .ok ops := by
  have hstrip : ∀ op ∈ ops, strip op = op := fun op hop => strip_of_path (h op hop)
  have hlist := operators_list kind fun op hop => (hstrip op hop).symm ▸ h op hop
  rw [hlist, List.map_congr_left hstrip, List.map_id']

theorem operators_text (kind : String) (hpath : IsIdentifierPath (strip text).toList) :
    operators kind (.text text) = .ok [strip text] :=
  operators_eq_ok_iff.mpr ⟨Or.inl (Or.inl ⟨text, rfl, hpath⟩), rfl⟩

theorem ofAssigned_of_path {kind : String} (hkey : kind ≠ whereKey)
    (hpath : IsIdentifierPath (strip text).toList) :
    ofAssigned kind text = ⟨kind, .list ([strip text].map .text)⟩ := by
  have hblank : ¬ allBlank text := by
    rw [allBlank_iff, ← trim_eq_nil_iff]
    exact trim_ne_nil hpath
  rw [ofAssigned, if_neg hkey, nonBlank?, if_neg hblank]
  rfl

section
variable [Host]

theorem traitEntry_text {s : String} {e : TraitEntry} (h : parse s = .ok e) (target : String) :
    Declaration.traitEntry target (.text s) = .ok e := liftM_cause_eq_ok_iff.mpr h

theorem traitEntry_table (kind : String) (argument : Value) (target : String) :
    Declaration.traitEntry target (.table [(.text kind, argument)]) = .ok ⟨kind, argument⟩ := rfl

theorem Spells.exists_entry {kind : String} {v : Value} (h : Spells kind ops v)
    (hkind : isIdentifier kind.toList) (hkey : kind ≠ whereKey) (hops : ops ≠ [])
    (hpaths : ∀ op ∈ ops, IsIdentifierPath op.toList) (target : String) :
    ∃ argument, Declaration.traitEntry target v = .ok ⟨kind, argument⟩ ∧
      operators kind argument = .ok ops := by
  have hstripped : ∀ texts : List String, texts.map strip = ops →
      ∀ s ∈ texts, IsIdentifierPath (strip s).toList := by
    rintro texts rfl s hs
    exact hpaths _ (List.mem_map_of_mem hs)
  cases h with
  | @call a b d texts ha hb hd htexts =>
    rw [allBlank_iff] at ha hb hd
    have hne : texts ≠ [] := by
      rintro rfl
      exact hops htexts.symm
    have hparse := parse_called (s := a ++ kind ++ b ++ "(" ++ ",".intercalate texts ++ ")" ++ d)
      hkind hkey (",".intercalate texts).toList ha hb hd (by simp)
    rw [operatorTexts_intercalate hne (hstripped texts htexts), htexts] at hparse
    exact ⟨_, traitEntry_text hparse target, operators_of_paths kind hpaths⟩
  | @list texts htexts =>
    refine ⟨_, traitEntry_table kind _ target, ?_⟩
    rw [operators_list kind (hstripped texts htexts), htexts]
  | @lone text htext =>
    have hpath := hstripped [text] htext text List.mem_cons_self
    refine ⟨_, traitEntry_table kind _ target, ?_⟩
    rw [operators_text kind hpath, htext]
  | @assigned a b d f text ha hb hd hf htext =>
    rw [allBlank_iff] at ha hb hd hf
    have hpath := hstripped [text] htext text List.mem_cons_self
    have hparse := parse_assigned (s := a ++ kind ++ b ++ "=" ++ d ++ "\"" ++ text ++ "\"" ++ f)
      hkind text ha hb hd hf (by simp)
    rw [ofAssigned_of_path hkey hpath, htext] at hparse
    exact ⟨_, traitEntry_text hparse target, operators_of_paths kind hpaths⟩

end

/-- Entries that the reader does not tell apart. -/
structure Alike (c : Catalog) (e e' : TraitEntry) : Prop where
  key : e.key = e'.key
  request : e.key ≠ whereKey → ∀ index, request c index e = request c index e'
  clause : e.key = whereKey → clause e.argument = clause e'.argument

theorem requestsFrom_congr {es es' : List TraitEntry} (h : List.Forall₂ (Alike c) es es') :
    requestsFrom c index es = requestsFrom c index es' := by
  -- The reader looks one entry ahead, so the lists are taken apart two entries at a time.
  fun_induction requestsFrom c index es generalizing es' with
  | case1 index =>
    cases h
    rfl
  | case2 index e he =>
    obtain ⟨e', _, halike, hnil, rfl⟩ := List.forall₂_cons_left_iff.mp h
    cases hnil
    rw [requestsFrom, if_pos (halike.key ▸ he)]
  | case3 index e he =>
    obtain ⟨e', _, halike, hnil, rfl⟩ := List.forall₂_cons_left_iff.mp h
    cases hnil
    rw [requestsFrom, if_neg (halike.key ▸ he), halike.request he]
  | case4 index e next rest he =>
    obtain ⟨e', _, halike, hrest, rfl⟩ := List.forall₂_cons_left_iff.mp h
    obtain ⟨next', rest', _, _, rfl⟩ := List.forall₂_cons_left_iff.mp hrest
    rw [requestsFrom, if_pos (halike.key ▸ he)]
  | case5 index e next rest he ihrest ihnext =>
    obtain ⟨e', _, halike, hcons, rfl⟩ := List.forall₂_cons_left_iff.mp h
    obtain ⟨next', rest', hnext, hrest, rfl⟩ := List.forall₂_cons_left_iff.mp hcons
    rw [requestsFrom, if_neg (halike.key ▸ he), halike.request he, ihrest hrest, ihnext hcons]
    by_cases hwhere : next.key = whereKey
    · rw [hnext.clause hwhere, hnext.key]
    · have hnot : next'.key ≠ whereKey := hnext.key ▸ hwhere
      simp only [if_neg hwhere, if_neg hnot]

theorem alike_of_operators {kind : String} {argument argument' : Value} (hkey : kind ≠ whereKey)
    (h : operators kind argument = operators kind argument') :
    Alike c ⟨kind, argument⟩ ⟨kind, argument'⟩ := by
  refine ⟨rfl, fun _ index => ?_, fun hwhere => absurd hwhere hkey⟩
  rw [request, request, h]

theorem requests_congr_at {e e' : TraitEntry} (h : Alike c e e') (before after : List TraitEntry) :
    requests c (before ++ e :: after) = requests c (before ++ e' :: after) := by
  have hsame : ∀ es : List TraitEntry, List.Forall₂ (Alike c) es es := fun es =>
    List.forall₂_same.mpr fun e _ => ⟨rfl, fun _ _ => rfl, fun _ => rfl⟩
  exact requestsFrom_congr (List.rel_append (hsame before) (.cons h (hsame after)))

/-- All spellings of an entry give the same requests or the same cause, wherever the entry stands. A
clause in quotes is the clause of a table, whatever characters it holds. -/
theorem spellings_agree [Host] :
    (∀ c kind ops v v' target, isIdentifier kind.toList → kind ≠ whereKey → ops ≠ [] →
      (∀ op ∈ ops, isPath op.toList) → Spells kind ops v → Spells kind ops v' →
      ∃ e e', Declaration.traitEntry target v = .ok e ∧ Declaration.traitEntry target v' = .ok e' ∧
        ∀ before after, requests c (before ++ e :: after) = requests c (before ++ e' :: after)) ∧
    (∀ clause target a b d f, allBlank a → allBlank b → allBlank d → allBlank f →
      Declaration.traitEntry target
          (.text (a ++ "Where" ++ b ++ "=" ++ d ++ "\"" ++ clause ++ "\"" ++ f)) =
        .ok ⟨whereKey, .text clause⟩ ∧
      Declaration.traitEntry target (.table [(.text "Where", .text clause)]) =
        .ok ⟨whereKey, .text clause⟩) := by
  constructor
  · intro c kind ops v v' target hkind hkey hops hpaths hv hv'
    have hpaths : ∀ op ∈ ops, IsIdentifierPath op.toList := fun op hop =>
      isPath_iff.mp (hpaths op hop)
    obtain ⟨argument, hread, hoperators⟩ := hv.exists_entry hkind hkey hops hpaths target
    obtain ⟨argument', hread', hoperators'⟩ := hv'.exists_entry hkind hkey hops hpaths target
    have halike := alike_of_operators (c := c) hkey (hoperators.trans hoperators'.symm)
    exact ⟨_, _, hread, hread', requests_congr_at halike⟩
  · intro clause target a b d f ha hb hd hf
    rw [allBlank_iff] at ha hb hd hf
    have hkey : isIdentifier whereKey.toList := by decide
    have hparse := parse_assigned
      (s := a ++ "Where" ++ b ++ "=" ++ d ++ "\"" ++ clause ++ "\"" ++ f) hkey clause ha hb hd hf
      (by simp [whereKey])
    exact ⟨traitEntry_text hparse target, rfl⟩

attribute [local instance] Host.terminal

theorem spellings_of_group :
    let called := " Group\t( ops::Additive\n) "
    let assigned := "Group=\" ops::Additive\""
    let clause := "T: Fn(A) -> \"B\" = \"C"
    (∃ e e', Declaration.traitEntry "W" (.text called) = .ok e ∧
      Declaration.traitEntry "W" (.text assigned) = .ok e' ∧
      requests Catalog.standard [e, ⟨"Where", .text clause⟩] =
        requests Catalog.standard [e', ⟨"Where", .text clause⟩]) ∧
    Declaration.traitEntry "W" (.text ("Where = \"" ++ clause ++ "\"")) =
      .ok ⟨whereKey, .text clause⟩ := by
  intro called assigned clause
  obtain ⟨hspellings, hclause⟩ := spellings_agree
  have hcalled : Spells "Group" ["ops::Additive"] (.text called) :=
    @Spells.call _ _ " " "\t" " " [" ops::Additive\n"] (by decide) (by decide) (by decide)
      (by decide)
  have hassigned : Spells "Group" ["ops::Additive"] (.text assigned) :=
    @Spells.assigned _ _ "" "" "" "" " ops::Additive" (by decide) (by decide) (by decide)
      (by decide) (by decide)
  obtain ⟨e, e', he, he', hsame⟩ := hspellings Catalog.standard "Group" ["ops::Additive"] _ _ "W"
    (by decide) (by decide) (by decide) (by decide) hcalled hassigned
  have hwhere := hclause clause "W" "" " " " " "" (by decide) (by decide) (by decide) (by decide)
  exact ⟨⟨e, e', he, he', hsame [] _⟩, hwhere.1⟩

end TraitEntry
end StructureDerive
