import StructureDerive.Proofs.Search
import StructureDerive.Text.Lines

/-! # What reading makes of line ends

Folded line ends leave no carriage return, and nothing else changes. A needle without line ends is
found in the folded text exactly where it was before. It is also found in the bytes of a text where it
is found in the text, since a character begins where the needle does.
-/
namespace StructureDerive.Text
variable {needle u v b t : List Char} {x : Char}

theorem fromUTF8?_toUTF8 (s : String) : String.fromUTF8? s.toUTF8 = some s := by
  rw [String.fromUTF8?, String.toUTF8_eq_toByteArray, dif_pos s.isValidUTF8]
  rfl

/-- A text as it is read: all its line ends are line feeds. -/
def folded (s : String) : String := String.ofList (foldReturns s.toList)

theorem not_mem_foldReturns (cs : List Char) : '\r' ∉ foldReturns cs := by
  fun_induction foldReturns cs with
  | case1 => exact List.not_mem_nil
  | case2 rest ih =>
    rw [List.mem_cons, not_or]
    exact ⟨by decide, ih⟩
  | case3 c rest _ ih =>
    rw [List.mem_cons, not_or]
    refine ⟨fun h => ?_, ih⟩
    split at h
    · exact absurd h (by decide)
    · rename_i hc
      exact hc h.symm

theorem mem_foldReturns {c : Char} (h : c ∈ foldReturns u) : c ∈ u ∨ c = '\n' := by
  fun_induction foldReturns u with
  | case1 => cases h
  | case2 rest ih =>
    rcases List.mem_cons.mp h with rfl | h
    · exact Or.inr rfl
    · exact (ih h).imp_left fun h => List.mem_cons_of_mem _ (List.mem_cons_of_mem _ h)
  | case3 d rest _ ih =>
    rcases List.mem_cons.mp h with rfl | h
    · split
      · exact Or.inr rfl
      · exact Or.inl List.mem_cons_self
    · exact (ih h).imp_left (List.mem_cons_of_mem d)

theorem foldReturns_cons (hx : x ≠ '\r') (v : List Char) :
    foldReturns (x :: v) = x :: foldReturns v := by
  rw [foldReturns, if_neg hx]
  rintro rest rfl
  exact absurd rfl hx

theorem foldReturns_append (hu : '\r' ∉ u) (v : List Char) :
    foldReturns (u ++ v) = u ++ foldReturns v := by
  induction u with
  | nil => rfl
  | cons x u ih =>
    obtain ⟨hx, hu⟩ := not_or.mp (mt List.mem_cons.mpr hu)
    rw [List.cons_append, foldReturns_cons (Ne.symm hx), ih hu, List.cons_append]

theorem foldReturns_of_not_mem (h : '\r' ∉ u) : foldReturns u = u := by
  have hfold := foldReturns_append h []
  rwa [foldReturns, List.append_nil] at hfold

/-- A carriage return before the cut meets no line feed behind it. -/
theorem foldReturns_append_cons (hx : x ≠ '\r') (hx' : x ≠ '\n') (u v : List Char) :
    foldReturns (u ++ x :: v) = foldReturns u ++ x :: foldReturns v := by
  fun_induction foldReturns u with
  | case1 => exact foldReturns_cons hx v
  | case2 rest ih => rw [List.cons_append, List.cons_append, foldReturns, ih, List.cons_append]
  | case3 c rest hpair ih =>
    rw [List.cons_append, foldReturns, ih, List.cons_append]
    rintro tail rfl heq
    cases rest with
    | nil => exact hx' (List.cons.inj heq).1
    | cons d rest =>
      obtain ⟨rfl, _⟩ := List.cons.inj heq
      exact hpair rest rfl rfl

/-- A text without line ends. -/
structure IsUnbroken (needle : List Char) : Prop where
  ne_nil : needle ≠ []
  noReturn : '\r' ∉ needle
  noFeed : '\n' ∉ needle

theorem IsUnbroken.foldReturns_append (hn : IsUnbroken needle) (u v : List Char) :
    foldReturns (u ++ (needle ++ v)) = foldReturns u ++ (needle ++ foldReturns v) := by
  obtain ⟨x, rest, rfl⟩ := List.exists_cons_of_ne_nil hn.ne_nil
  obtain ⟨hx, hrest⟩ := not_or.mp (mt List.mem_cons.mpr hn.noReturn)
  obtain ⟨hx', _⟩ := not_or.mp (mt List.mem_cons.mpr hn.noFeed)
  rw [List.cons_append, foldReturns_append_cons (Ne.symm hx) (Ne.symm hx'),
    Text.foldReturns_append hrest, List.cons_append]

/-- What starts a folded text has started the text itself, unless it is a line end. -/
theorem exists_append_of_foldReturns (hr : '\r' ∉ needle) (hf : '\n' ∉ needle) {cs : List Char}
    (h : foldReturns cs = needle ++ t) : ∃ t', cs = needle ++ t' ∧ foldReturns t' = t := by
  induction needle generalizing cs with
  | nil => exact ⟨cs, rfl, h⟩
  | cons x needle ih =>
    obtain ⟨_, hr⟩ := not_or.mp (mt List.mem_cons.mpr hr)
    obtain ⟨hx, hf⟩ := not_or.mp (mt List.mem_cons.mpr hf)
    rw [List.cons_append] at h
    unfold foldReturns at h
    split at h
    · cases h
    · exact absurd (List.cons.inj h).1 hx
    · rename_i c rest _
      obtain ⟨hc, hrest⟩ := List.cons.inj h
      split at hc
      · exact absurd hc hx
      · obtain ⟨t', rfl, ht'⟩ := ih hr hf hrest
        exact ⟨t', by rw [hc, List.cons_append], ht'⟩

/-- A needle without line ends in a folded text was in the text before. -/
theorem IsUnbroken.exists_append (hn : IsUnbroken needle) {cs : List Char}
    (h : foldReturns cs = b ++ (needle ++ t)) :
    ∃ b' t', cs = b' ++ (needle ++ t') ∧ foldReturns t' = t := by
  fun_induction foldReturns cs generalizing b with
  | case1 =>
    have hnil := List.append_eq_nil_iff.mp (List.append_eq_nil_iff.mp h.symm).2
    exact absurd hnil.1 hn.ne_nil
  | case2 rest ih =>
    cases b with
    | nil =>
      have hfold : foldReturns ('\r' :: '\n' :: rest) = needle ++ t := h
      obtain ⟨t', heq, ht'⟩ := exists_append_of_foldReturns hn.noReturn hn.noFeed hfold
      exact ⟨[], t', heq, ht'⟩
    | cons y b =>
      obtain ⟨b', t', rfl, ht'⟩ := ih (List.cons.inj h).2
      exact ⟨'\r' :: '\n' :: b', t', rfl, ht'⟩
  | case3 c rest hpair ih =>
    cases b with
    | nil =>
      have hfold : foldReturns (c :: rest) = needle ++ t := by
        rw [foldReturns]
        · exact h
        · exact hpair
      obtain ⟨t', heq, ht'⟩ := exists_append_of_foldReturns hn.noReturn hn.noFeed hfold
      exact ⟨[], t', heq, ht'⟩
    | cons y b =>
      obtain ⟨b', t', rfl, ht'⟩ := ih (List.cons.inj h).2
      exact ⟨c :: b', t', rfl, ht'⟩

theorem IsFirst.foldReturns (hn : IsUnbroken needle) (h : IsFirst needle u) :
    IsFirst needle (foldReturns u) := by
  intro b t heq
  have hfold := hn.foldReturns_append u []
  rw [Text.foldReturns, List.append_nil, heq, List.append_assoc] at hfold
  obtain ⟨b', t', htext, rfl⟩ := hn.exists_append hfold
  have hnil := h b' t' (by rw [htext, List.append_assoc])
  rw [hnil, Text.foldReturns]

theorem toList_folded (s : String) : (folded s).toList = foldReturns s.toList :=
  String.toList_ofList

theorem count_return_folded (s : String) : (folded s).toList.count '\r' = 0 := by
  rw [toList_folded, List.count_eq_zero]
  exact not_mem_foldReturns _

theorem folded_of_not_mem {s : String} (h : '\r' ∉ s.toList) : folded s = s := by
  rw [folded, foldReturns_of_not_mem h, String.ofList_toList]

/-- Only carriage returns are lost around a part that stays the same. -/
theorem folded_around_iff {first last : String} (part : String) :
    folded first ++ part ++ folded last = first ++ part ++ last ↔
      '\r' ∉ first.toList ∧ '\r' ∉ last.toList := by
  constructor
  · intro h
    have hcount := congrArg (fun s : String => s.toList.count '\r') h
    simp only [String.toList_append, List.count_append, count_return_folded] at hcount
    rw [← List.count_eq_zero, ← List.count_eq_zero]
    omega
  · rintro ⟨hfirst, hlast⟩
    rw [folded_of_not_mem hfirst, folded_of_not_mem hlast]

variable {text part : String} {before after : ByteArray}

/-- A text can be cut where the bytes of a character begin. -/
theorem exists_append_of_firstByte (h : text.toByteArray = before ++ after) (hpos : 0 < after.size)
    (hfirst : after[0].IsUTF8FirstByte) :
    ∃ first last, text = first ++ last ∧ first.toByteArray = before ∧ last.toByteArray = after := by
  have hlt : (⟨before.size⟩ : String.Pos.Raw) < text.rawEndPos := by
    have hsize := congrArg ByteArray.size h
    rw [ByteArray.size_append, String.size_toByteArray] at hsize
    have hsum : before.size < text.utf8ByteSize := by omega
    rwa [String.Pos.Raw.lt_iff, String.byteIdx_rawEndPos]
  have hbyte : (text.getUTF8Byte ⟨before.size⟩ hlt).IsUTF8FirstByte := by
    unfold String.getUTF8Byte
    simpa [h, ByteArray.getElem_append_right] using hfirst
  obtain ⟨first, last, rfl, hend⟩ := String.Pos.Raw.isValid_iff_exists_append.mp
    (String.Pos.Raw.isValid_iff_isUTF8FirstByte.mpr (Or.inr ⟨hlt, hbyte⟩))
  rw [String.toByteArray_append] at h
  have hbefore : first.toByteArray = before := by
    refine ByteArray.append_inj_left h ?_
    rw [String.size_toByteArray]
    exact (congrArg String.Pos.Raw.byteIdx hend).symm
  rw [hbefore, ByteArray.append_right_inj] at h
  exact ⟨first, last, rfl, hbefore, h⟩

theorem exists_append_of_toByteArray (h : text.toByteArray = part.toByteArray ++ after) :
    ∃ last, text = part ++ last ∧ last.toByteArray = after := by
  have hencode : part.toList.utf8Encode ++ after = text.toList.utf8Encode := by
    rw [String.utf8Encode_toList, String.utf8Encode_toList, h]
  obtain ⟨last, hlast⟩ := List.isPrefix_of_utf8Encode_append_eq_utf8Encode after hencode
  have htext : text = part ++ String.ofList last := by
    rw [← String.toList_inj, ← hlast, String.toList_append, String.toList_ofList]
  rw [htext, String.toByteArray_append, ByteArray.append_right_inj] at h
  exact ⟨String.ofList last, htext, h⟩

/-- The bytes around those of a part are texts as well. -/
theorem exists_append_of_bytes (hpart : part ≠ "")
    (h : text.toByteArray = before ++ (part.toByteArray ++ after)) :
    ∃ first last, text = first ++ part ++ last ∧ first.toByteArray = before ∧
      last.toByteArray = after := by
  have hsize : 0 < part.toByteArray.size := by
    rw [Nat.pos_iff_ne_zero]
    intro hzero
    rw [ByteArray.size_eq_zero_iff, ← String.toByteArray_empty, String.toByteArray_inj] at hzero
    exact hpart hzero
  have hpos : 0 < (part.toByteArray ++ after).size := by
    rw [ByteArray.size_append]
    omega
  have hfirst : (part.toByteArray ++ after)[0].IsUTF8FirstByte := by
    rw [ByteArray.getElem_append_left hsize]
    exact part.isValidUTF8.isUTF8FirstByte_getElem_zero hsize
  obtain ⟨first, rest, rfl, hbefore, hrest⟩ := exists_append_of_firstByte h hpos hfirst
  obtain ⟨last, rfl, hafter⟩ := exists_append_of_toByteArray hrest
  exact ⟨first, last, by rw [String.append_assoc], hbefore, hafter⟩

theorem isFirst_of_bytes {first needle : String}
    (h : ∀ b t, first.toByteArray ++ needle.toByteArray = b ++ needle.toByteArray ++ t →
      t = .empty) : IsFirst needle.toList first.toList := by
  intro b t heq
  have hbytes := congrArg List.utf8Encode heq
  simp only [List.utf8Encode_append, String.utf8Encode_toList] at hbytes
  have hempty := h _ _ hbytes
  rw [← String.toByteArray_ofList, ← String.toByteArray_empty, String.toByteArray_inj] at hempty
  rw [← String.toList_ofList (l := t), hempty, String.toList_empty]

theorem IsFirst.bytes {first needle : String} (hneedle : needle ≠ "")
    (h : IsFirst needle.toList first.toList) (b t : ByteArray)
    (heq : first.toByteArray ++ needle.toByteArray = b ++ needle.toByteArray ++ t) : t = .empty := by
  rw [← String.toByteArray_append, ByteArray.append_assoc] at heq
  obtain ⟨b, t, htext, rfl, rfl⟩ := exists_append_of_bytes hneedle heq
  have hlist := congrArg String.toList htext
  simp only [String.toList_append] at hlist
  have hnil := h _ _ hlist
  rw [← String.ofList_toList (s := t), hnil]
  rfl

end StructureDerive.Text
