import StructureDerive.Declaration.Generics
import StructureDerive.Host.Terminal
import StructureDerive.Proofs.CommaList
import StructureDerive.Proofs.IdentifierPath
import StructureDerive.Proofs.Outcome

/-! # Parameter lists read back

A parameter is read from its name and what stands after the first colon, blanks aside. Its
declaration has the same name and the same bounds, so it is read as the same parameter, and it has
the same depth at its end, so a list of declarations is split where the list that was read is split.
-/
namespace StructureDerive
open Outcome

namespace Parameter
open Text
variable {s : String} {p : Parameter} {kind : ParameterKind}
variable {cs u v name bounds rest type : List Char}

theorem nameAndBounds_of_not_mem (h : ':' ∉ cs) : nameAndBounds cs = (trim cs, []) := by
  have hall : ∀ c ∈ cs, decide (c ≠ ':') = true := fun c hc =>
    decide_eq_true fun heq => h (heq ▸ hc)
  rw [nameAndBounds, List.takeWhile_eq_self_iff.mpr hall, List.dropWhile_eq_nil_iff.mpr hall]
  rfl

theorem nameAndBounds_of_colon (hu : ':' ∉ u) (v : List Char) :
    nameAndBounds (u ++ ':' :: v) = (trim u, trim v) := by
  have hall : ∀ c ∈ u, decide (c ≠ ':') = true := fun c hc =>
    decide_eq_true fun heq => hu (heq ▸ hc)
  rw [nameAndBounds, List.takeWhile_append_of_pos hall, List.dropWhile_append_of_pos hall]
  simp

theorem exists_nameAndBounds (cs : List Char) :
    (':' ∉ cs ∧ nameAndBounds cs = (trim cs, [])) ∨
      ∃ u v, ':' ∉ u ∧ cs = u ++ ':' :: v ∧ nameAndBounds cs = (trim u, trim v) := by
  by_cases h : ':' ∈ cs
  · obtain ⟨u, v, rfl, hu⟩ := List.eq_append_cons_of_mem h
    exact Or.inr ⟨u, v, hu, rfl, nameAndBounds_of_colon hu v⟩
  · exact Or.inl ⟨h, nameAndBounds_of_not_mem h⟩

theorem colon_not_mem_name (h : nameAndBounds cs = (name, bounds)) : ':' ∉ name := by
  rcases exists_nameAndBounds cs with ⟨hcs, heq⟩ | ⟨u, v, hu, _, heq⟩
  · obtain ⟨rfl, _⟩ := Prod.mk.inj (heq.symm.trans h)
    exact fun hc => hcs (mem_of_mem_trim hc)
  · obtain ⟨rfl, _⟩ := Prod.mk.inj (heq.symm.trans h)
    exact fun hc => hu (mem_of_mem_trim hc)

theorem isTrimmed_nameAndBounds (h : nameAndBounds cs = (name, bounds)) :
    IsTrimmed name ∧ IsTrimmed bounds := by
  obtain ⟨rfl, rfl⟩ := Prod.mk.inj h
  exact ⟨isTrimmed_trim _, isTrimmed_trim _⟩

theorem wholeDepth?_eq_of_nameAndBounds (h : nameAndBounds cs = (name, bounds)) :
    wholeDepth? 0 none cs = (wholeDepth? 0 none name).bind fun e => wholeDepth? e none bounds := by
  have htrim : ∀ e u, wholeDepth? e none (trim u) = wholeDepth? e none u :=
    wholeDepth?_trim (by simp)
  rcases exists_nameAndBounds cs with ⟨_, heq⟩ | ⟨u, v, _, rfl, heq⟩
  · obtain ⟨rfl, rfl⟩ := Prod.mk.inj (heq.symm.trans h)
    rw [htrim]
    exact (Option.bind_fun_some _).symm
  · obtain ⟨rfl, rfl⟩ := Prod.mk.inj (heq.symm.trans h)
    simp only [wholeDepth?_colon, htrim]

theorem nameAndBounds_spaced (hname : ':' ∉ name) (hn : IsTrimmed name) (hb : IsTrimmed bounds) :
    nameAndBounds (name ++ ':' :: ' ' :: bounds) = (name, bounds) := by
  have hblank : Blanks [' '] := by simp [Blanks, isBlank]
  have htrim : trim (' ' :: bounds) = trim bounds := trim_blanks_append hblank bounds
  rw [nameAndBounds_of_colon hname, hn.trim_eq, htrim, hb.trim_eq]

theorem wholeDepth?_constWord (rest : List Char) :
    wholeDepth? 0 none (constWord ++ rest) = wholeDepth? 0 none rest := by
  have hword : wholeDepth? 0 none constWord = some 0 := by decide
  rw [wholeDepth?_append, hword]
  exact wholeDepth?_before (by decide) (by simp) 0 rest

/-- What the name of a lifetime or a type has to be. -/
def isNameOf : ParameterKind → List Char → Bool
  | .lifetime, name => isLifetime name
  | .type, name => isIdentifier name
  | .const, _ => false

/-- What a stripped text is read as. -/
inductive Reads : List Char → Parameter → Prop where
  | const {rest name type : List Char} : nameAndBounds rest = (name, type) → type ≠ [] →
      Reads (constWord ++ rest) ⟨.const, String.ofList name, some (String.ofList type)⟩
  | bare {kind : ParameterKind} {cs name bounds : List Char} : ¬ constWord <+: cs →
      nameAndBounds cs = (name, bounds) → isNameOf kind name →
      Reads cs ⟨kind, String.ofList name, nonEmpty? bounds⟩

theorem ne_nil_of_isNameOf (h : isNameOf kind name) : name ≠ [] := by
  rintro rfl
  cases kind <;> cases h

theorem isBlank_of_mem_name (h : isNameOf kind name) {c : Char} (hc : c ∈ name) :
    isBlank c = false := by
  cases kind with
  | type => exact isBlank_of_mem_identifier h hc
  | const => cases h
  | lifetime =>
    rw [isNameOf] at h
    unfold isLifetime at h
    split at h
    · rcases List.mem_cons.mp hc with rfl | hc
      · decide
      · exact isBlank_of_mem_identifier h hc
    · cases h

theorem head?_ne_of_isNameOf (h : isNameOf kind name) : name.head? ≠ some '<' := by
  intro hhead
  obtain ⟨rest, rfl⟩ : ∃ rest, name = '<' :: rest := List.head?_eq_some_iff.mp hhead
  have hstart : isIdentifierStart '<' = false := by decide
  cases kind with
  | lifetime => cases h
  | type => simp [isNameOf, isIdentifier, hstart] at h
  | const => cases h

theorem not_isLifetime_of_isIdentifier (h : isIdentifier name) : isLifetime name = false := by
  unfold isLifetime
  split
  · have hstart : isIdentifierStart '\'' = false := by decide
    simp [isIdentifier, hstart] at h
  · rfl

theorem parse_eq_ok_iff : parse s = .ok p ↔ Reads s.toList p := by
  unfold parse
  dsimp only
  constructor
  · intro h
    split at h
    · rename_i hword
      obtain ⟨rest, hrest⟩ := List.isPrefixOf_iff_prefix.mp hword
      have hdrop : s.toList.drop constWord.length = rest := by rw [← hrest, List.drop_left]
      rw [hdrop] at h
      split at h
      · cases h
      · rename_i htype
        cases h
        rw [← hrest]
        exact .const rfl fun hnil => htype (List.isEmpty_iff.mpr hnil)
    · rename_i hword
      have hword : ¬ constWord <+: s.toList := fun hp => hword (List.isPrefixOf_iff_prefix.mpr hp)
      split at h
      · rename_i hlifetime
        cases h
        exact .bare hword rfl hlifetime
      · split at h
        · rename_i htype
          cases h
          exact .bare hword rfl htype
        · cases h
  · intro h
    generalize hs : s.toList = cs at h
    cases h with
    | @const rest name type hread htype =>
      rw [if_pos (List.isPrefixOf_iff_prefix.mpr (List.prefix_append constWord rest)),
        List.drop_left, hread]
      simp [htype]
    | @bare kind _ name bounds hword hread hname =>
      rw [if_neg fun hp => hword (List.isPrefixOf_iff_prefix.mp hp), hread]
      cases kind with
      | lifetime => exact if_pos hname
      | type =>
        have hnot : ¬ isLifetime name := by simp [not_isLifetime_of_isIdentifier hname]
        exact (if_neg hnot).trans (if_pos hname)
      | const => cases hname

/-- The declaration of a lifetime or a type. -/
def bareDeclaration (name bounds : List Char) : List Char :=
  if bounds = [] then name else name ++ ':' :: ' ' :: bounds

theorem declaration_const (name type : List Char) :
    (declaration ⟨.const, String.ofList name, some (String.ofList type)⟩).toList =
      constWord ++ (name ++ ':' :: ' ' :: type) := by
  have htext : declaration ⟨.const, String.ofList name, some (String.ofList type)⟩ =
      "const " ++ String.ofList name ++ ": " ++ String.ofList type := rfl
  rw [htext, String.toList_append, String.toList_append, String.toList_append,
    String.toList_ofList (l := name), String.toList_ofList (l := type), List.append_assoc,
    List.append_assoc]
  rfl

theorem declaration_bare (h : isNameOf kind name) (bounds : List Char) :
    (declaration ⟨kind, String.ofList name, nonEmpty? bounds⟩).toList =
      bareDeclaration name bounds := by
  have hkind : kind ≠ .const := by
    rintro rfl
    cases h
  unfold bareDeclaration
  split
  · rename_i hnil
    cases kind <;> simp_all [declaration, nonEmpty?]
  · rename_i hne
    cases kind <;> simp_all [declaration, nonEmpty?, toString]

theorem nameAndBounds_bareDeclaration (hname : ':' ∉ name) (hn : IsTrimmed name)
    (hb : IsTrimmed bounds) : nameAndBounds (bareDeclaration name bounds) = (name, bounds) := by
  unfold bareDeclaration
  split
  · rename_i hnil
    rw [nameAndBounds_of_not_mem hname, hn.trim_eq, hnil]
  · exact nameAndBounds_spaced hname hn hb

theorem takeWhile_bareDeclaration (hname : ':' ∉ name) (bounds : List Char) :
    (bareDeclaration name bounds).takeWhile (· ≠ ':') = name := by
  have hall : ∀ c ∈ name, decide (c ≠ ':') = true := fun c hc =>
    decide_eq_true fun heq => hname (heq ▸ hc)
  unfold bareDeclaration
  split
  · exact List.takeWhile_eq_self_iff.mpr hall
  · rw [List.takeWhile_append_of_pos hall, List.takeWhile_cons_of_neg (by simp), List.append_nil]

/-- A name without blanks is not taken for the word of a const. -/
theorem not_startsWith_constWord (hname : ':' ∉ name) (hblank : ∀ c ∈ name, isBlank c = false)
    (bounds : List Char) : ¬ constWord <+: bareDeclaration name bounds := by
  rintro ⟨t, ht⟩
  have hword : ∀ c ∈ constWord, decide (c ≠ ':') = true := List.all_eq_true.mp (by decide)
  have hsplit := takeWhile_bareDeclaration hname bounds
  rw [← ht, List.takeWhile_append_of_pos hword] at hsplit
  have hspace : ' ' ∈ name := by
    rw [← hsplit]
    exact List.mem_append_left _ (by decide)
  have hnot : isBlank ' ' = false := hblank ' ' hspace
  revert hnot
  decide

/-- A declaration is read as the parameter that it declares. -/
theorem Reads.declaration (h : Reads cs p) : Reads p.declaration.toList p := by
  cases h with
  | const hread htype =>
    obtain ⟨hn, hb⟩ := isTrimmed_nameAndBounds hread
    rw [declaration_const]
    exact .const (nameAndBounds_spaced (colon_not_mem_name hread) hn hb) htype
  | bare _ hread hname =>
    obtain ⟨hn, hb⟩ := isTrimmed_nameAndBounds hread
    have hcolon := colon_not_mem_name hread
    rw [declaration_bare hname]
    exact .bare (not_startsWith_constWord hcolon (fun c => isBlank_of_mem_name hname) _)
      (nameAndBounds_bareDeclaration hcolon hn hb) hname

theorem Reads.wholeDepth?_declaration (h : Reads cs p) :
    wholeDepth? 0 none p.declaration.toList = wholeDepth? 0 none cs := by
  cases h with
  | const hread _ =>
    obtain ⟨hn, hb⟩ := isTrimmed_nameAndBounds hread
    have hspaced := nameAndBounds_spaced (colon_not_mem_name hread) hn hb
    rw [declaration_const, wholeDepth?_constWord, wholeDepth?_constWord,
      wholeDepth?_eq_of_nameAndBounds hspaced, wholeDepth?_eq_of_nameAndBounds hread]
  | bare _ hread hname =>
    obtain ⟨hn, hb⟩ := isTrimmed_nameAndBounds hread
    have hbare := nameAndBounds_bareDeclaration (colon_not_mem_name hread) hn hb
    rw [declaration_bare hname, wholeDepth?_eq_of_nameAndBounds hbare,
      wholeDepth?_eq_of_nameAndBounds hread]

theorem Reads.isTrimmed_declaration (h : Reads cs p) : IsTrimmed p.declaration.toList := by
  cases h with
  | @const rest name type hread htype =>
    obtain ⟨_, hb⟩ := isTrimmed_nameAndBounds hread
    have hfirst : IsTrimmed ['c'] := isTrimmed_singleton (by decide)
    have hsplit : constWord ++ (name ++ ':' :: ' ' :: type) =
        ['c'] ++ (("onst ".toList ++ name ++ [':', ' ']) ++ type) := by
      rw [List.append_assoc, List.append_assoc]
      rfl
    rw [declaration_const, hsplit]
    exact hfirst.around (List.cons_ne_nil _ _) _ hb htype
  | bare _ hread hname =>
    obtain ⟨hn, hb⟩ := isTrimmed_nameAndBounds hread
    rw [declaration_bare hname]
    unfold bareDeclaration
    split
    · exact hn
    · rename_i hne
      exact hn.around (ne_nil_of_isNameOf hname) [':', ' '] hb hne

theorem Reads.ne_nil (h : Reads cs p) : cs ≠ [] := by
  rintro rfl
  generalize hcs : [] = cs at h
  cases h with
  | const _ _ => cases hcs
  | bare _ hread hname =>
    subst hcs
    cases hread
    cases ne_nil_of_isNameOf hname rfl

theorem Reads.head?_ne (h : Reads cs p) : cs.head? ≠ some '<' := by
  intro hhead
  obtain ⟨rest, rfl⟩ := List.head?_eq_some_iff.mp hhead
  generalize hcs : '<' :: rest = cs at h
  cases h with
  | const _ _ => cases hcs
  | bare _ hread hname =>
    subst hcs
    obtain ⟨rfl, _⟩ := Prod.mk.inj hread
    have hblank : isBlank '<' = false := by decide
    refine head?_ne_of_isNameOf hname ?_
    rw [head?_trim, List.takeWhile_cons_of_pos (by decide),
      List.find?_cons_of_pos (by simp [hblank])]

end Parameter

namespace Generics
open Text Parameter
variable {s : String} {g : Generics} {p : Parameter} {cs : List Char} {texts : List String}
variable {pieces : List (List Char)}

theorem ofValue_text_eq_ok_iff :
    ofValue (.text s) = .ok p ↔ ¬ allBlank s ∧ Reads (trim s.toList) p := by
  rw [ofValue, Value.text?, Option.bind_some, nonBlank?]
  by_cases hblank : allBlank s
  · simp [hblank]
  · rw [if_neg hblank]
    simp [hblank, parse_eq_ok_iff, strip]

theorem forall₂_congr_of_mem {α β : Type} {R S : α → β → Prop} {xs : List α} {ys : List β}
    (h : ∀ x ∈ xs, ∀ y, R x y ↔ S x y) : List.Forall₂ R xs ys ↔ List.Forall₂ S xs ys := by
  induction xs generalizing ys with
  | nil => simp
  | cons x xs ih =>
    obtain ⟨hx, hxs⟩ := List.forall_mem_cons.mp h
    simp only [List.forall₂_cons_left_iff, hx, ih hxs]

theorem unwrapped_wrapped (cs : List Char) : unwrapped ('<' :: (cs ++ ['>'])) = cs := by
  simp [unwrapped]

theorem unwrapped_of_head?_ne (h : cs.head? ≠ some '<') : unwrapped cs = cs := by
  unfold unwrapped
  split
  · exact absurd rfl h
  · rfl

theorem trim_wrapped (cs : List Char) : trim ('<' :: (cs ++ ['>'])) = '<' :: (cs ++ ['>']) := by
  have hopen : IsTrimmed ['<'] := isTrimmed_singleton (by decide)
  have hclose : IsTrimmed ['>'] := isTrimmed_singleton (by decide)
  exact (hopen.around (List.cons_ne_nil _ _) cs hclose (List.cons_ne_nil _ _)).trim_eq

theorem exists_reads_of_mem {ps : List Parameter} (h : List.Forall₂ Reads pieces ps) (hp : p ∈ ps) :
    ∃ cs ∈ pieces, Reads cs p := by
  induction h with
  | nil => cases hp
  | @cons cs q pieces ps hq _ ih =>
    rcases List.mem_cons.mp hp with rfl | hp
    · exact ⟨cs, List.mem_cons_self, hq⟩
    · obtain ⟨u, hu, hread⟩ := ih hp
      exact ⟨u, List.mem_cons_of_mem cs hu, hread⟩

/-- A list of declarations is split where the list that was read was split. -/
theorem topLevelPieces_declarations {ps : List Parameter} (hread : List.Forall₂ Reads pieces ps)
    (hpieces : IsSeparable pieces) : topLevelPieces (commaList (ps.map (·.declaration))).toList =
      ps.map fun p => p.declaration.toList := by
  have hseparable : IsSeparable (ps.map fun p => p.declaration.toList) := by
    refine hpieces.of_forall₂ (List.forall₂_map_right_iff.mpr ?_)
    exact hread.imp fun _ _ h => h.wholeDepth?_declaration
  have htrimmed : ∀ q ∈ ps.map (fun p => p.declaration.toList), q ≠ [] ∧ IsTrimmed q := by
    intro q hq
    obtain ⟨p, hp, rfl⟩ := List.mem_map.mp hq
    obtain ⟨cs, _, hcs⟩ := exists_reads_of_mem hread hp
    exact ⟨hcs.declaration.ne_nil, hcs.isTrimmed_declaration⟩
  rw [toList_commaList, List.map_map]
  exact topLevelPieces_intercalate_of_isTrimmed hseparable htrimmed

section
variable [Host]

theorem parse_eq_ok_iff {raw : Value} : Generics.parse raw = .ok g ↔
    ∃ values, parameterValues raw = .ok values ∧
      List.Forall₂ (fun v p => ofValue v = .ok p) values g.parameters := by
  unfold Generics.parse
  simp only [bind_eq_ok_iff, liftM_fault_eq_ok_iff, liftM_cause_eq_ok_iff, ofValues,
    mapM_eq_ok_iff_forall₂]
  constructor
  · rintro ⟨values, hvalues, parameters, hread, h⟩
    cases h
    exact ⟨values, hvalues, hread⟩
  · rintro ⟨values, hvalues, hread⟩
    exact ⟨values, hvalues, g.parameters, hread, rfl⟩

theorem parse_text_eq_ok_iff : Generics.parse (.text s) = .ok g ↔
    List.Forall₂ Reads (topLevelPieces (unwrapped (trim s.toList))) g.parameters := by
  rw [parse_eq_ok_iff]
  simp only [parameterValues, Except.ok.injEq, exists_eq_left', parameterTexts, List.map_map,
    List.forall₂_map_left_iff]
  refine forall₂_congr_of_mem fun piece hpiece p => ?_
  obtain ⟨hne, htrimmed⟩ := isTrimmed_of_mem_topLevelPieces hpiece
  have hnot : ¬ allBlank (String.ofList piece) := by
    rw [allBlank_iff, ← trim_eq_nil_iff, String.toList_ofList, htrimmed.trim_eq]
    exact hne
  rw [Function.comp_apply, ofValue_text_eq_ok_iff, String.toList_ofList, htrimmed.trim_eq]
  exact and_iff_right hnot

theorem parse_list_eq_ok_iff : Generics.parse (.list (texts.map .text)) = .ok g ↔
    List.Forall₂ (fun s p => ¬ allBlank s ∧ Reads (trim s.toList) p) texts g.parameters := by
  rw [parse_eq_ok_iff]
  simp only [parameterValues, Value.elements, Value.elements?, Except.ok.injEq, exists_eq_left',
    List.forall₂_map_left_iff, ofValue_text_eq_ok_iff]

theorem parse_wrapped_eq_ok_iff (s : String) : Generics.parse (.text s!"<{s}>") = .ok g ↔
    List.Forall₂ Reads (topLevelPieces s.toList) g.parameters := by
  have htext : s!"<{s}>".toList = '<' :: (s.toList ++ ['>']) := by simp [toString]
  rw [parse_text_eq_ok_iff, htext, trim_wrapped, unwrapped_wrapped]

theorem parse_declared (h : Generics.parse (.text s) = .ok g) :
    Generics.parse (.text g.declared) = .ok g := by
  have hread := parse_text_eq_ok_iff.mp h
  by_cases hnil : g.parameters = []
  · have hempty : g.declared = "" := by simp [declared, bracketed, hnil]
    rw [hempty, parse_text_eq_ok_iff, hnil]
    exact .nil
  · have hlist : g.declared = s!"<{commaList (g.parameters.map (·.declaration))}>" := by
      simp [declared, bracketed, hnil]
    rw [hlist, parse_wrapped_eq_ok_iff,
      topLevelPieces_declarations hread (isSeparable_topLevelPieces _), List.forall₂_map_left_iff,
      List.forall₂_same]
    intro p hp
    obtain ⟨cs, _, hcs⟩ := exists_reads_of_mem hread hp
    exact hcs.declaration

theorem forall₂_reads_commaList (h : Generics.parse (.list (texts.map .text)) = .ok g)
    (htexts : ∀ s ∈ texts, IsEnclosed s.toList) :
    List.Forall₂ Reads (topLevelPieces (commaList texts).toList) g.parameters := by
  have hread := parse_list_eq_ok_iff.mp h
  have hseparable : IsSeparable (texts.map String.toList) := by
    refine isSeparable_of_forall fun p hp => ?_
    obtain ⟨s, hs, rfl⟩ := List.mem_map.mp hp
    exact isEnclosed_iff.mp (htexts s hs)
  have hne : ∀ q ∈ (texts.map String.toList).map trim, (!q.isEmpty) = true := by
    intro q hq
    obtain ⟨u, hu, rfl⟩ := List.mem_map.mp hq
    obtain ⟨s, hs, rfl⟩ := List.mem_map.mp hu
    have hblank : ¬ allBlank s := ((List.forall₂_and_left _ _).mp hread).1 s hs
    rw [allBlank_iff, ← trim_eq_nil_iff] at hblank
    simpa using hblank
  rw [toList_commaList, topLevelPieces_intercalate hseparable, List.filter_eq_self.mpr hne,
    List.map_map, List.forall₂_map_left_iff]
  exact hread.imp fun _ _ h => h.2

theorem head?_trim_commaList (h : Generics.parse (.list (texts.map .text)) = .ok g) :
    (trim (commaList texts).toList).head? ≠ some '<' := by
  have hread := parse_list_eq_ok_iff.mp h
  rw [toList_commaList]
  cases texts with
  | nil => decide
  | cons s texts =>
    obtain ⟨p, _, ⟨_, hp⟩, _, _⟩ := List.forall₂_cons_left_iff.mp hread
    obtain ⟨t, ht⟩ :
        ∃ t, ", ".toList.intercalate ((s :: texts).map String.toList) = s.toList ++ t := by
      cases texts with
      | nil => exact ⟨[], by simp⟩
      | cons q texts => exact ⟨_, by rw [List.map_cons, List.map_cons, List.intercalate_cons_cons,
          List.append_assoc]⟩
    have hfirst := hp.head?_ne
    obtain ⟨c, rest, hc⟩ := List.exists_cons_of_ne_nil hp.ne_nil
    rw [ht, head?_trim, List.find?_append, ← head?_trim, hc]
    rw [hc] at hfirst
    exact hfirst

/-- A parameter list that is read from a text is read again from its own declaration. A list whose
items keep their commas inside balanced brackets is read alike from its items, from their join and
from their join in angle brackets. -/
theorem parse_declared_and_joined :
    (∀ s g, Generics.parse (.text s) = .ok g → Generics.parse (.text g.declared) = .ok g) ∧
    (∀ texts g, Generics.parse (.list (texts.map .text)) = .ok g →
      (∀ s ∈ texts, IsEnclosed s.toList) →
        Generics.parse (.text (commaList texts)) = .ok g ∧
          Generics.parse (.text s!"<{commaList texts}>") = .ok g) := by
  refine ⟨fun s g => parse_declared, fun texts g h htexts => ?_⟩
  have hjoined := forall₂_reads_commaList h htexts
  refine ⟨?_, (parse_wrapped_eq_ok_iff _).mpr hjoined⟩
  rw [parse_text_eq_ok_iff, unwrapped_of_head?_ne (head?_trim_commaList h), topLevelPieces_trim]
  exact hjoined

end

attribute [local instance] Host.terminal

/-- The list that is read last leaves a bracket open, and its declaration does so, too. -/
theorem parse_arrow_bounds :
    let texts := ["'a", " F :Fn(A, B) -> Map<A, B> ", "const N: [u8; 4]"]
    let s := " <'a:'b , const N :usize, F: Fn(A, B) -> Vec<> "
    (∃ g, Generics.parse (.list (texts.map .text)) = .ok g ∧
      (∀ s ∈ texts, IsEnclosed s.toList) ∧ Generics.parse (.text (commaList texts)) = .ok g ∧
        Generics.parse (.text s!"<{commaList texts}>") = .ok g) ∧
    ∃ g, Generics.parse (.text s) = .ok g ∧
      g.declared = "<'a: 'b, const N: usize, F: Fn(A, B) -> Vec<>" ∧
        Generics.parse (.text g.declared) = .ok g := by
  intro texts s
  obtain ⟨hdeclared, hjoined⟩ := parse_declared_and_joined
  have hdepth : ∀ s ∈ texts, wholeDepth? 0 none s.toList = some 0 := by decide +kernel
  have htexts : ∀ s ∈ texts, IsEnclosed s.toList := fun s hs => isEnclosed_iff.mpr (hdepth s hs)
  have hg : Generics.parse (.list (texts.map .text)) = .ok ⟨[⟨.lifetime, "'a", none⟩,
      ⟨.type, "F", some "Fn(A, B) -> Map<A, B>"⟩, ⟨.const, "N", some "[u8; 4]"⟩]⟩ :=
    toOption_eq_some_iff.mp (by decide +kernel)
  have hg' : Generics.parse (.text s) = .ok ⟨[⟨.lifetime, "'a", some "'b"⟩,
      ⟨.const, "N", some "usize"⟩, ⟨.type, "F", some "Fn(A, B) -> Vec<"⟩]⟩ :=
    toOption_eq_some_iff.mp (by decide +kernel)
  exact ⟨⟨_, hg, htexts, hjoined texts _ hg htexts⟩, _, hg', by decide +kernel, hdeclared s _ hg'⟩

end Generics
end StructureDerive
