import StructureDerive.Proofs.CommaList

/-! # Blank segments

A comma list has a blank segment when nothing but blanks stands between two of its commas outside
brackets, or between such a comma and an end. Joining texts makes no blank segment of its own: each
one comes from a text that has it.
-/
namespace StructureDerive.Text
variable {cs u v l p : List Char} {ps : List (List Char)} {before before' : Option Char}

def HasBlankSegment (cs : List Char) : Prop := ∃ p ∈ piecesFrom 0 none cs, Blanks p

theorem depthThrough_before (h : before ≠ some '-') (h' : before' ≠ some '-') (depth : Int)
    (cs : List Char) : depthThrough depth before cs = depthThrough depth before' cs := by
  cases cs with
  | nil => rfl
  | cons c cs => rw [depthThrough, depthThrough, depthAfter_before h h']

theorem depthThrough_append (depth : Int) (before : Option Char) (u v : List Char) :
    depthThrough depth before (u ++ v) =
      depthThrough (depthThrough depth before u) (u.getLast?.or before) v := by
  induction u generalizing depth before with
  | nil => rfl
  | cons c u ih => rw [List.cons_append, depthThrough, ih, depthThrough, getLast?_cons_or]

theorem depthThrough_append_comma (hu : depthThrough 0 none u = 0) (v : List Char) :
    depthThrough 0 none (u ++ ',' :: v) = depthThrough 0 none v := by
  rw [depthThrough_append, hu, depthThrough, depthAfter_comma]
  exact depthThrough_before (by simp) (by simp) 0 v

/-- A text that ends at depth 0 keeps its pieces when a comma follows it. -/
theorem piecesFrom_append_comma (hu : depthThrough 0 none u = 0) (v : List Char) :
    piecesFrom 0 none (u ++ ',' :: v) = piecesFrom 0 none u ++ piecesFrom 0 none v := by
  -- by the commas of `u` at depth 0: its last segment is cut off by the comma that follows
  induction u using comma_induction with
  | whole u e he =>
    have hend : depthThrough 0 none u = e := (wholeDepth?_eq_some_iff.mp he).1
    have hzero : e = 0 := hend.symm.trans hu
    rw [piecesFrom_whole he, piecesFrom_split (hzero ▸ he)]
    rfl
  | split s t hs ih =>
    have hend : depthThrough 0 none s = 0 := (wholeDepth?_eq_some_iff.mp hs).1
    rw [depthThrough_append_comma hend] at hu
    rw [List.append_assoc, List.cons_append, piecesFrom_split hs, piecesFrom_split hs, ih hu]
    rfl

theorem hasBlankSegment_append_comma (hu : depthThrough 0 none u = 0) :
    HasBlankSegment (u ++ ',' :: v) ↔ HasBlankSegment u ∨ HasBlankSegment v := by
  rw [HasBlankSegment, piecesFrom_append_comma hu]
  simp only [List.mem_append, or_and_right, exists_or]
  rfl

theorem hasBlankSegment_whole {e : Int} (h : wholeDepth? 0 none cs = some e) :
    HasBlankSegment cs ↔ Blanks cs := by
  simp [HasBlankSegment, piecesFrom_whole h]

theorem blanks_append_iff (hl : Blanks l) : Blanks (l ++ cs) ↔ Blanks cs :=
  ⟨fun h c hc => h c (List.mem_append_right l hc), hl.append⟩

theorem hasBlankSegment_blanks_append (hl : Blanks l) :
    HasBlankSegment (l ++ cs) ↔ HasBlankSegment cs := by
  rcases whole_or_split 0 none cs with ⟨e, he⟩ | ⟨u, v, rfl, hu⟩
  · have hlonger := (wholeDepth?_blanks_append hl cs).trans he
    rw [hasBlankSegment_whole hlonger, hasBlankSegment_whole he, blanks_append_iff hl]
  · have hlonger := (wholeDepth?_blanks_append hl u).trans hu
    have hu' := (wholeDepth?_eq_some_iff.mp hu).1
    have hlonger' := (wholeDepth?_eq_some_iff.mp hlonger).1
    rw [← List.append_assoc, hasBlankSegment_append_comma hlonger',
      hasBlankSegment_append_comma hu', hasBlankSegment_whole hlonger, hasBlankSegment_whole hu,
      blanks_append_iff hl]

/-- The blank segments of a joined list are those of its texts, as long as all but the last of them
end at depth 0. -/
theorem hasBlankSegment_intercalate (hps : ps ≠ [])
    (hdepth : ∀ p ∈ ps.dropLast, depthThrough 0 none p = 0) :
    HasBlankSegment (", ".toList.intercalate ps) ↔ ∃ p ∈ ps, HasBlankSegment p := by
  have hblank : Blanks [' '] := by simp [Blanks, isBlank]
  induction ps with
  | nil => exact absurd rfl hps
  | cons p ps ih =>
    cases ps with
    | nil => simp
    | cons q ps =>
      obtain ⟨hp, hrest⟩ := List.forall_mem_cons.mp hdepth
      have hjoin : ", ".toList.intercalate (p :: q :: ps) =
          p ++ ',' :: ([' '] ++ ", ".toList.intercalate (q :: ps)) := by
        rw [List.intercalate_cons_cons, List.append_assoc]
        rfl
      have hmore := ih (List.cons_ne_nil q ps) hrest
      rw [hjoin, hasBlankSegment_append_comma hp, hasBlankSegment_blanks_append hblank,
        List.exists_mem_cons_iff]
      exact or_congr_right hmore

theorem not_hasBlankSegment_of_mem (hp : p ∈ topLevelPieces cs) : ¬ HasBlankSegment p := by
  obtain ⟨e, he⟩ := (isSeparable_topLevelPieces cs).exists_wholeDepth? hp
  obtain ⟨hne, htrimmed⟩ := isTrimmed_of_mem_topLevelPieces hp
  rw [hasBlankSegment_whole he]
  intro hblank
  exact hne (htrimmed.trim_eq.symm.trans (trim_blanks hblank))

end StructureDerive.Text
