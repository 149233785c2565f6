import Mathlib.Data.List.Forall2
import StructureDerive.Cause
import StructureDerive.Proofs.Trimming
import StructureDerive.Text.Nested

/-! # Where a comma list is split

The bracket depth is the only memory of the splitter, apart from the character just read, which
matters for arrows alone. So the pieces of a joined list are the joined texts as long as none of
them has a comma at depth 0 and all but the last of them end at depth 0. The pieces of any split are
such texts, whatever brackets the last one leaves open.
-/
namespace StructureDerive

theorem toList_commaList (texts : List String) :
    (commaList texts).toList = ", ".toList.intercalate (texts.map String.toList) :=
  String.toList_intercalate

namespace Text
variable {cs u v l r p : List Char} {c : Char} {depth e : Int} {before before' : Option Char}
variable {ps qs : List (List Char)} {s : String}

/-- The depth at the end of a text that begins at a depth and after a character. -/
def depthThrough (depth : Int) (before : Option Char) : List Char → Int
  | [] => depth
  | c :: rest => depthThrough (depthAfter depth before c) (some c) rest

/-- The depth at the end of a text, unless there is a comma at depth 0. -/
def wholeDepth? (depth : Int) (before : Option Char) : List Char → Option Int
  | [] => some depth
  | c :: rest =>
    let depth := depthAfter depth before c
    if c = ',' ∧ depth = 0 then none else wholeDepth? depth (some c) rest

/-- Brackets are balanced, and all commas stand inside them. -/
structure IsEnclosed (cs : List Char) : Prop where
  balanced : depthThrough 0 none cs = 0
  commas : ∀ u v, cs = u ++ ',' :: v → depthThrough 0 none u ≠ 0

/-- Texts that keep apart when they are joined by commas: only the last may leave brackets open. -/
inductive IsSeparable : List (List Char) → Prop where
  | nil : IsSeparable []
  | last {p : List Char} {depth : Int} : wholeDepth? 0 none p = some depth → IsSeparable [p]
  | cons {p : List Char} {ps : List (List Char)} : wholeDepth? 0 none p = some 0 →
      IsSeparable ps → IsSeparable (p :: ps)

theorem depthAfter_before (h : before ≠ some '-') (h' : before' ≠ some '-') (depth : Int)
    (c : Char) : depthAfter depth before c = depthAfter depth before' c := by
  simp [depthAfter, h, h']

theorem depthAfter_comma (depth : Int) (before : Option Char) :
    depthAfter depth before ',' = depth := by
  simp [depthAfter]

theorem depthAfter_colon (depth : Int) (before : Option Char) :
    depthAfter depth before ':' = depth := by
  simp [depthAfter]

theorem depthAfter_blank (hc : isBlank c) (depth : Int) (before : Option Char) :
    depthAfter depth before c = depth := by
  have hne : ∀ d, isBlank d = false → c ≠ d := by
    rintro d hd rfl
    rw [hd] at hc
    cases hc
  have hopen : c ≠ '<' ∧ c ≠ '(' ∧ c ≠ '[' := ⟨hne _ rfl, hne _ rfl, hne _ rfl⟩
  have hclose : c ≠ ')' ∧ c ≠ ']' ∧ c ≠ '>' := ⟨hne _ rfl, hne _ rfl, hne _ rfl⟩
  simp [depthAfter, hopen, hclose]

theorem not_isBlank_comma : isBlank ',' = false := by decide

theorem ne_comma_of_isBlank (hc : isBlank c) : c ≠ ',' := by
  rintro rfl
  simp [not_isBlank_comma] at hc

theorem ne_dash_of_isBlank (hc : isBlank c) : some c ≠ some '-' := by
  rintro ⟨⟩
  have hdash : isBlank '-' = false := by decide
  simp [hdash] at hc

theorem wholeDepth?_before (h : before ≠ some '-') (h' : before' ≠ some '-') (depth : Int)
    (cs : List Char) : wholeDepth? depth before cs = wholeDepth? depth before' cs := by
  cases cs with
  | nil => rfl
  | cons c cs => rw [wholeDepth?, wholeDepth?, depthAfter_before h h']

theorem getLast?_cons_or (c : Char) (u : List Char) (before : Option Char) :
    (c :: u).getLast?.or before = u.getLast?.or (some c) := by
  cases u <;> simp [List.getLast?_cons]

theorem wholeDepth?_append (depth : Int) (before : Option Char) (u v : List Char) :
    wholeDepth? depth before (u ++ v) =
      (wholeDepth? depth before u).bind fun e => wholeDepth? e (u.getLast?.or before) v := by
  induction u generalizing depth before with
  | nil => rfl
  | cons c u ih =>
    rw [List.cons_append, wholeDepth?, wholeDepth?, getLast?_cons_or]
    split
    · rfl
    · exact ih _ _

theorem wholeDepth?_blanks (hl : Blanks l) (depth : Int) (before : Option Char) :
    wholeDepth? depth before l = some depth := by
  induction l generalizing before with
  | nil => rfl
  | cons c l ih =>
    have hc : isBlank c := hl c List.mem_cons_self
    rw [wholeDepth?, depthAfter_blank hc, if_neg fun h => ne_comma_of_isBlank hc h.1]
    exact ih (fun d hd => hl d (List.mem_cons_of_mem c hd)) _

theorem getLast?_or_ne_dash (hl : Blanks l) (h : before ≠ some '-') :
    l.getLast?.or before ≠ some '-' := by
  cases hlast : l.getLast? with
  | none => exact h
  | some c => exact ne_dash_of_isBlank (hl c (List.mem_of_mem_getLast? hlast))

theorem wholeDepth?_trim (h : before ≠ some '-') (depth : Int) (cs : List Char) :
    wholeDepth? depth before (trim cs) = wholeDepth? depth before cs := by
  obtain ⟨l, r, hl, hr, hcs⟩ := exists_blanks_around cs
  have hafter := wholeDepth?_before (getLast?_or_ne_dash hl h) h depth (trim cs)
  calc wholeDepth? depth before (trim cs)
      = (wholeDepth? depth before (l ++ trim cs)).bind fun e => some e := by
        rw [wholeDepth?_append, wholeDepth?_blanks hl, Option.bind_some, hafter]
        exact (Option.bind_fun_some _).symm
    _ = wholeDepth? depth before (l ++ trim cs ++ r) := by
        rw [wholeDepth?_append depth before (l ++ trim cs) r]
        simp only [wholeDepth?_blanks hr]
    _ = wholeDepth? depth before cs := by rw [← hcs]

theorem wholeDepth?_colon (depth : Int) (before : Option Char) (u v : List Char) :
    wholeDepth? depth before (u ++ ':' :: v) =
      (wholeDepth? depth before u).bind fun e => wholeDepth? e none v := by
  rw [wholeDepth?_append]
  refine congrArg _ (funext fun e => ?_)
  rw [wholeDepth?, depthAfter_colon, if_neg (by simp)]
  exact wholeDepth?_before (by simp) (by simp) e v

theorem wholeDepth?_eq_some_iff : wholeDepth? depth before cs = some e ↔
    depthThrough depth before cs = e ∧
      ∀ u v, cs = u ++ ',' :: v → depthThrough depth before u ≠ 0 := by
  induction cs generalizing depth before with
  | nil => simp [wholeDepth?, depthThrough]
  | cons c cs ih =>
    rw [wholeDepth?, depthThrough]
    split
    · rename_i hsplit
      obtain ⟨rfl, hzero⟩ := hsplit
      rw [depthAfter_comma] at hzero
      simp only [reduceCtorEq, false_iff, not_and]
      intro _ hall
      exact hall [] cs rfl hzero
    · rename_i hwhole
      rw [ih]
      refine and_congr_right fun _ => ⟨fun hall u v huv => ?_, fun hall u v huv => ?_⟩
      · cases u with
        | nil =>
          obtain ⟨rfl, _⟩ := List.cons.inj huv
          rw [depthAfter_comma] at hwhole
          exact fun hzero => hwhole ⟨rfl, hzero⟩
        | cons d u =>
          obtain ⟨rfl, htail⟩ := List.cons.inj huv
          exact hall u v htail
      · exact hall (c :: u) v (by rw [huv, List.cons_append])

theorem isEnclosed_iff : IsEnclosed cs ↔ wholeDepth? 0 none cs = some 0 := by
  rw [wholeDepth?_eq_some_iff]
  exact ⟨fun h => ⟨h.balanced, h.commas⟩, fun h => ⟨h.1, h.2⟩⟩

theorem piecesFrom_before (h : before ≠ some '-') (h' : before' ≠ some '-') (depth : Int)
    (cs : List Char) : piecesFrom depth before cs = piecesFrom depth before' cs := by
  cases cs with
  | nil => rfl
  | cons c cs => rw [piecesFrom, piecesFrom, depthAfter_before h h']

theorem onFirstLine_eq_modifyHead (hps : ps ≠ []) : onFirstLine c ps = ps.modifyHead (c :: ·) := by
  cases ps with
  | nil => exact absurd rfl hps
  | cons p ps => rfl

theorem piecesFrom_ne_nil (depth : Int) (before : Option Char) (cs : List Char) :
    piecesFrom depth before cs ≠ [] := by
  cases cs with
  | nil => simp [piecesFrom]
  | cons c cs =>
    rw [piecesFrom]
    split
    · exact List.cons_ne_nil _ _
    · cases piecesFrom (depthAfter depth before c) (some c) cs <;> simp [onFirstLine]

/-- A text without commas at depth 0 goes into the first piece as a whole. -/
theorem piecesFrom_append (h : wholeDepth? depth before u = some e) (v : List Char) :
    piecesFrom depth before (u ++ v) =
      (piecesFrom e (u.getLast?.or before) v).modifyHead (u ++ ·) := by
  induction u generalizing depth before with
  | nil =>
    obtain rfl : depth = e := Option.some.inj h
    exact (congrFun List.modifyHead_id (piecesFrom depth before v)).symm
  | cons c u ih =>
    rw [wholeDepth?] at h
    split at h
    · cases h
    · rename_i hwhole
      rw [List.cons_append, piecesFrom, getLast?_cons_or, if_neg hwhole,
        onFirstLine_eq_modifyHead (piecesFrom_ne_nil _ _ _), ih h, List.modifyHead_modifyHead]
      rfl

theorem piecesFrom_whole (h : wholeDepth? 0 none cs = some e) : piecesFrom 0 none cs = [cs] := by
  have hpieces := piecesFrom_append h []
  rwa [List.append_nil, piecesFrom, List.modifyHead_cons, List.append_nil] at hpieces

theorem piecesFrom_split (h : wholeDepth? 0 none u = some 0) (v : List Char) :
    piecesFrom 0 none (u ++ ',' :: v) = u :: piecesFrom 0 none v := by
  have hnext : piecesFrom 0 (some ',') v = piecesFrom 0 none v :=
    piecesFrom_before (by simp) (by simp) 0 v
  rw [piecesFrom_append h, piecesFrom, depthAfter_comma, if_pos ⟨rfl, rfl⟩, List.modifyHead_cons,
    List.append_nil, hnext]

theorem whole_or_split (depth : Int) (before : Option Char) (cs : List Char) :
    (∃ e, wholeDepth? depth before cs = some e) ∨
      ∃ u v, cs = u ++ ',' :: v ∧ wholeDepth? depth before u = some 0 := by
  induction cs generalizing depth before with
  | nil => exact Or.inl ⟨depth, rfl⟩
  | cons c cs ih =>
    by_cases hsplit : c = ',' ∧ depthAfter depth before c = 0
    · obtain ⟨rfl, hzero⟩ := hsplit
      rw [depthAfter_comma] at hzero
      exact Or.inr ⟨[], cs, rfl, congrArg some hzero⟩
    · have hnext : ∀ v, wholeDepth? depth before (c :: v) =
          wholeDepth? (depthAfter depth before c) (some c) v := fun v => if_neg hsplit
      rcases ih (depthAfter depth before c) (some c) with ⟨e, he⟩ | ⟨u, v, rfl, hu⟩
      · exact Or.inl ⟨e, (hnext cs).trans he⟩
      · exact Or.inr ⟨c :: u, v, rfl, (hnext u).trans hu⟩

/-- Induction on the commas at depth 0. -/
theorem comma_induction {motive : List Char → Prop}
    (whole : ∀ cs e, wholeDepth? 0 none cs = some e → motive cs)
    (split : ∀ u v, wholeDepth? 0 none u = some 0 → motive v → motive (u ++ ',' :: v))
    (cs : List Char) : motive cs := by
  rcases whole_or_split 0 none cs with ⟨e, he⟩ | ⟨u, v, rfl, hu⟩
  · exact whole cs e he
  · exact split u v hu (comma_induction whole split v)
termination_by cs.length
decreasing_by
  rename_i heq
  simp only [heq, List.length_append, List.length_cons]
  omega

theorem topLevelPieces_whole (h : wholeDepth? 0 none cs = some e) :
    topLevelPieces cs = [trim cs].filter (!·.isEmpty) := by
  rw [topLevelPieces, piecesFrom_whole h, List.map_singleton]

theorem topLevelPieces_split (h : wholeDepth? 0 none u = some 0) (v : List Char) :
    topLevelPieces (u ++ ',' :: v) = [trim u].filter (!·.isEmpty) ++ topLevelPieces v := by
  rw [topLevelPieces, piecesFrom_split h, List.map_cons, ← List.singleton_append,
    List.filter_append]
  rfl

theorem wholeDepth?_blanks_append (hl : Blanks l) (cs : List Char) :
    wholeDepth? 0 none (l ++ cs) = wholeDepth? 0 none cs := by
  rw [← wholeDepth?_trim (by simp) 0 (l ++ cs), trim_blanks_append hl, wholeDepth?_trim (by simp)]

theorem topLevelPieces_blanks_append (hl : Blanks l) (cs : List Char) :
    topLevelPieces (l ++ cs) = topLevelPieces cs := by
  rcases whole_or_split 0 none cs with ⟨e, he⟩ | ⟨u, v, rfl, hu⟩
  · rw [topLevelPieces_whole he, topLevelPieces_whole ((wholeDepth?_blanks_append hl cs).trans he),
      trim_blanks_append hl]
  · rw [topLevelPieces_split hu, ← List.append_assoc,
      topLevelPieces_split ((wholeDepth?_blanks_append hl u).trans hu), trim_blanks_append hl]

theorem topLevelPieces_append_blanks (cs : List Char) (hr : Blanks r) :
    topLevelPieces (cs ++ r) = topLevelPieces cs := by
  -- The blanks belong to the last piece, so the induction has to pass all the others.
  induction cs using comma_induction with
  | whole cs e he =>
    have hlonger : wholeDepth? 0 none (cs ++ r) = some e := by
      rw [← wholeDepth?_trim (by simp), trim_append_blanks cs hr, wholeDepth?_trim (by simp), he]
    rw [topLevelPieces_whole he, topLevelPieces_whole hlonger, trim_append_blanks cs hr]
  | split u v hu ih =>
    rw [List.append_assoc, List.cons_append, topLevelPieces_split hu, topLevelPieces_split hu, ih]

theorem topLevelPieces_trim (cs : List Char) : topLevelPieces (trim cs) = topLevelPieces cs := by
  obtain ⟨l, r, hl, hr, hcs⟩ := exists_blanks_around cs
  have h := topLevelPieces_append_blanks (l ++ trim cs) hr
  rw [← hcs, topLevelPieces_blanks_append hl] at h
  exact h.symm

theorem splitTopLevel_strip (s : String) : splitTopLevel (strip s) = splitTopLevel s := by
  rw [splitTopLevel, splitTopLevel, strip, String.toList_ofList, topLevelPieces_trim]

/-- Texts without commas at depth 0 that end there can be put before any others. -/
theorem IsSeparable.append (hps : ∀ p ∈ ps, wholeDepth? 0 none p = some 0) (hqs : IsSeparable qs) :
    IsSeparable (ps ++ qs) := by
  induction ps with
  | nil => exact hqs
  | cons p ps ih =>
    obtain ⟨hp, hps⟩ := List.forall_mem_cons.mp hps
    exact .cons hp (ih hps)

theorem IsSeparable.exists_wholeDepth? (h : IsSeparable ps) (hp : p ∈ ps) :
    ∃ e, wholeDepth? 0 none p = some e := by
  induction h with
  | nil => cases hp
  | last hlast =>
    obtain rfl := List.mem_singleton.mp hp
    exact ⟨_, hlast⟩
  | cons hfirst _ ih =>
    rcases List.mem_cons.mp hp with rfl | hp
    · exact ⟨0, hfirst⟩
    · exact ih hp

theorem isSeparable_of_forall (h : ∀ p ∈ ps, wholeDepth? 0 none p = some 0) : IsSeparable ps := by
  have happend := IsSeparable.append h .nil
  rwa [List.append_nil] at happend

/-- Texts keep apart when none of them has a comma at depth 0 and all but the last end there. -/
theorem isSeparable_iff : IsSeparable ps ↔
    (∀ p ∈ ps, ∀ u v, p = u ++ ',' :: v → depthThrough 0 none u ≠ 0) ∧
      ∀ p ∈ ps.dropLast, depthThrough 0 none p = 0 := by
  have hcommas : ∀ {p e}, wholeDepth? 0 none p = some e →
      ∀ u v, p = u ++ ',' :: v → depthThrough 0 none u ≠ 0 := fun h =>
    (wholeDepth?_eq_some_iff.mp h).2
  constructor
  · intro h
    induction h with
    | nil => simp
    | last hp => exact ⟨List.forall_mem_singleton.mpr (hcommas hp), by simp⟩
    | @cons p ps hp _ ih =>
      refine ⟨List.forall_mem_cons.mpr ⟨hcommas hp, ih.1⟩, fun q hq => ?_⟩
      cases ps with
      | nil => simp at hq
      | cons q' ps =>
        rcases List.mem_cons.mp hq with rfl | hq
        · exact (wholeDepth?_eq_some_iff.mp hp).1
        · exact ih.2 q hq
  · rintro ⟨hcommas, hdepth⟩
    induction ps with
    | nil => exact .nil
    | cons p ps ih =>
      obtain ⟨hp, hps⟩ := List.forall_mem_cons.mp hcommas
      cases ps with
      | nil => exact .last (wholeDepth?_eq_some_iff.mpr ⟨rfl, hp⟩)
      | cons q ps =>
        obtain ⟨hzero, hrest⟩ := List.forall_mem_cons.mp hdepth
        exact .cons (wholeDepth?_eq_some_iff.mpr ⟨hzero, hp⟩) (ih hps hrest)

theorem IsSeparable.of_forall₂ (h : IsSeparable ps)
    (hqs : List.Forall₂ (fun p q => wholeDepth? 0 none q = wholeDepth? 0 none p) ps qs) :
    IsSeparable qs := by
  induction h generalizing qs with
  | nil =>
    cases hqs
    exact .nil
  | last hp =>
    obtain ⟨q, _, hq, hrest, rfl⟩ := List.forall₂_cons_left_iff.mp hqs
    cases hrest
    exact .last (hq.trans hp)
  | cons hp _ ih =>
    obtain ⟨q, _, hq, hrest, rfl⟩ := List.forall₂_cons_left_iff.mp hqs
    exact .cons (hq.trans hp) (ih hrest)

theorem isTrimmed_of_mem_topLevelPieces (h : p ∈ topLevelPieces cs) : p ≠ [] ∧ IsTrimmed p := by
  obtain ⟨hmem, hne⟩ := List.mem_filter.mp h
  obtain ⟨u, _, rfl⟩ := List.mem_map.mp hmem
  exact ⟨by simpa using hne, isTrimmed_trim u⟩

/-- The pieces of a text can be joined and split again. -/
theorem isSeparable_topLevelPieces (cs : List Char) : IsSeparable (topLevelPieces cs) := by
  have htrim : ∀ u, wholeDepth? 0 none (trim u) = wholeDepth? 0 none u :=
    wholeDepth?_trim (by simp) 0
  induction cs using comma_induction with
  | whole cs e he =>
    rw [topLevelPieces_whole he, List.filter_cons, List.filter_nil]
    split
    · exact .last ((htrim cs).trans he)
    · exact .nil
  | split u v hu ih =>
    rw [topLevelPieces_split hu, List.filter_cons, List.filter_nil]
    split
    · exact .cons ((htrim u).trans hu) ih
    · exact ih

theorem topLevelPieces_intercalate (h : IsSeparable ps) :
    topLevelPieces (", ".toList.intercalate ps) = (ps.map trim).filter (!·.isEmpty) := by
  induction h with
  | nil => rfl
  | last hp => rw [List.intercalate_singleton, topLevelPieces_whole hp, List.map_singleton]
  | @cons p ps hp hps ih =>
    cases ps with
    | nil => rw [List.intercalate_singleton, topLevelPieces_whole hp, List.map_singleton]
    | cons q ps =>
      have hblank : Blanks [' '] := by simp [Blanks, isBlank]
      have hjoin : ", ".toList.intercalate (p :: q :: ps) =
          p ++ ',' :: ([' '] ++ ", ".toList.intercalate (q :: ps)) := by
        rw [List.intercalate_cons_cons, List.append_assoc]
        rfl
      rw [hjoin, topLevelPieces_split hp, topLevelPieces_blanks_append hblank, ih,
        ← List.filter_append, List.singleton_append, ← List.map_cons]

theorem topLevelPieces_intercalate_of_isTrimmed (h : IsSeparable ps)
    (hps : ∀ p ∈ ps, p ≠ [] ∧ IsTrimmed p) : topLevelPieces (", ".toList.intercalate ps) = ps := by
  have hmap : ps.map trim = ps :=
    (List.map_congr_left fun p hp => (hps p hp).2.trim_eq).trans (List.map_id ps)
  rw [topLevelPieces_intercalate h, hmap, List.filter_eq_self]
  intro p hp
  simpa using (hps p hp).1

/-- No text has a comma outside its brackets, and only the last one may leave brackets open. -/
structure KeepsApart (texts : List String) : Prop where
  commas : ∀ s ∈ texts, ∀ u v, s.toList = u ++ ',' :: v → depthThrough 0 none u ≠ 0
  balanced : ∀ s ∈ texts.dropLast, depthThrough 0 none s.toList = 0

theorem keepsApart_iff {texts : List String} :
    KeepsApart texts ↔ IsSeparable (texts.map String.toList) := by
  rw [isSeparable_iff, ← List.map_dropLast, List.forall_mem_map, List.forall_mem_map]
  exact ⟨fun h => ⟨h.commas, h.balanced⟩, fun h => ⟨h.1, h.2⟩⟩

theorem splitTopLevel_commaList_iff {texts : List String}
    (h : ∀ s ∈ texts, s.toList ≠ [] ∧ IsTrimmed s.toList) :
    splitTopLevel (commaList texts) = texts ↔ KeepsApart texts := by
  rw [keepsApart_iff, splitTopLevel, toList_commaList]
  constructor
  · intro heq
    have hpieces : texts.map String.toList =
        topLevelPieces (", ".toList.intercalate (texts.map String.toList)) := by
      conv_lhs => rw [← heq]
      simp [List.map_map, Function.comp_def]
    rw [hpieces]
    exact isSeparable_topLevelPieces _
  · intro hseparable
    rw [topLevelPieces_intercalate_of_isTrimmed hseparable (List.forall_mem_map.mpr h)]
    simp [List.map_map, Function.comp_def]

theorem count_comma_intercalate (hps : ps ≠ []) :
    (", ".toList.intercalate ps).count ',' + 1 = ps.length + ps.flatten.count ',' := by
  induction ps with
  | nil => exact absurd rfl hps
  | cons p ps ih =>
    cases ps with
    | nil => simp [Nat.add_comm]
    | cons q ps =>
      have hnext := ih (List.cons_ne_nil q ps)
      have hsep : ", ".toList.count ',' = 1 := rfl
      rw [List.intercalate_cons_cons, List.count_append, List.count_append, hsep, List.length_cons,
        List.flatten_cons, List.count_append]
      omega

theorem append_comma_inj (hu : ',' ∉ u) (hv : ',' ∉ v) (h : u ++ ',' :: l = v ++ ',' :: r) :
    u = v ∧ l = r := by
  rcases List.append_eq_append_iff.mp h with ⟨w, rfl, hw⟩ | ⟨w, rfl, hw⟩
  · cases w with
    | nil => exact ⟨(List.append_nil u).symm, (List.cons.inj hw).2⟩
    | cons c w =>
      obtain ⟨rfl, _⟩ := List.cons.inj hw
      exact absurd (List.mem_append_right u List.mem_cons_self) hv
  · cases w with
    | nil => exact ⟨List.append_nil v, (List.cons.inj hw).2.symm⟩
    | cons c w =>
      obtain ⟨rfl, _⟩ := List.cons.inj hw
      exact absurd (List.mem_append_right v List.mem_cons_self) hu

/-- Texts without commas are known from their join and their number. -/
theorem eq_of_intercalate_eq (hlen : ps.length = qs.length)
    (hqs : ∀ q ∈ qs, ',' ∉ q) (h : ", ".toList.intercalate ps = ", ".toList.intercalate qs) :
    ps = qs := by
  -- The commas of the join are those between the texts, so none is left for the texts.
  have hps : ∀ p ∈ ps, ',' ∉ p := by
    intro p hp
    have hne : ps ≠ [] := List.ne_nil_of_mem hp
    have hne' : qs ≠ [] := fun hnil => hne (List.eq_nil_of_length_eq_zero (by simp [hlen, hnil]))
    have hcount := count_comma_intercalate hne
    have hcount' := count_comma_intercalate hne'
    have hzero : qs.flatten.count ',' = 0 := List.count_eq_zero.mpr fun hmem => by
      obtain ⟨q, hq, hcomma⟩ := List.mem_flatten.mp hmem
      exact hqs q hq hcomma
    have hnone : ps.flatten.count ',' = 0 := by
      rw [h] at hcount
      omega
    exact fun hcomma => List.count_eq_zero.mp hnone (List.mem_flatten_of_mem hp hcomma)
  induction ps generalizing qs with
  | nil => exact (List.eq_nil_of_length_eq_zero hlen.symm).symm
  | cons p ps ih =>
    obtain ⟨q, qs, rfl⟩ := List.exists_cons_of_length_eq_add_one hlen.symm
    obtain ⟨hq, hqs'⟩ := List.forall_mem_cons.mp hqs
    obtain ⟨hp, hps'⟩ := List.forall_mem_cons.mp hps
    have htail : ps.length = qs.length := Nat.succ.inj hlen
    cases ps with
    | nil =>
      obtain rfl : qs = [] := List.eq_nil_of_length_eq_zero htail.symm
      rwa [List.intercalate_singleton, List.intercalate_singleton, ← List.singleton_inj] at h
    | cons p' ps =>
      obtain ⟨q', qs, rfl⟩ := List.exists_cons_of_length_eq_add_one htail.symm
      rw [List.intercalate_cons_cons, List.intercalate_cons_cons, List.append_assoc,
        List.append_assoc] at h
      obtain ⟨rfl, hrest⟩ := append_comma_inj hp hq h
      rw [ih htail hqs' (List.cons.inj hrest).2 hps']

end Text
end StructureDerive
