import StructureDerive.Format.Json

/-! # Texts in ASCII

A text in ASCII can be printed and encoded on every host. A JSON text is one, whatever texts it
holds: what is not in ASCII is written as an escape, which is made of digits.
-/
namespace StructureDerive

namespace Text

/-- Only characters of ASCII. -/
def AllAscii (cs : List Char) : Prop := ∀ c ∈ cs, c.toNat < 128

instance (cs : List Char) : Decidable (AllAscii cs) := List.decidableBAll _ cs

variable {cs ds : List Char} {s t : String}

theorem allAscii_cons_iff {c : Char} : AllAscii (c :: cs) ↔ c.toNat < 128 ∧ AllAscii cs :=
  List.forall_mem_cons

theorem allAscii_append_iff : AllAscii (cs ++ ds) ↔ AllAscii cs ∧ AllAscii ds :=
  List.forall_mem_append

theorem AllAscii.append (hs : AllAscii s.toList) (ht : AllAscii t.toList) :
    AllAscii (s ++ t).toList := by
  rw [String.toList_append]
  exact allAscii_append_iff.mpr ⟨hs, ht⟩

theorem allAscii_intercalate {texts : List String} (hs : AllAscii s.toList)
    (h : ∀ t ∈ texts, AllAscii t.toList) : AllAscii (s.intercalate texts).toList := by
  induction texts with
  | nil => exact List.forall_mem_nil _
  | cons t texts ih =>
    obtain ⟨ht, htexts⟩ := List.forall_mem_cons.mp h
    cases texts with
    | nil => simpa using ht
    | cons u texts =>
      rw [String.intercalate_cons_cons]
      exact (ht.append hs).append (ih htexts)

theorem toNat_digitChar_lt {n : Nat} (h : n < 16) : (Nat.digitChar n).toNat < 128 := by
  have hall : ∀ n < 16, (Nat.digitChar n).toNat < 128 := by decide
  exact hall n h

theorem allAscii_hexDigits (width n : Nat) : AllAscii (hexDigits width n) := by
  induction width generalizing n with
  | zero => exact List.forall_mem_nil _
  | succ width ih =>
    rw [hexDigits, allAscii_append_iff, allAscii_cons_iff]
    exact ⟨ih _, toNat_digitChar_lt (Nat.mod_lt n (by decide)), List.forall_mem_nil _⟩

theorem allAscii_toString_nat (n : Nat) : AllAscii (toString n).toList := by
  intro c hc
  have hmem : c ∈ Nat.toDigits 10 n := by simpa using hc
  have hdigit := Nat.isDigit_of_mem_toDigits (by decide) (by decide) hmem
  simp only [Char.isDigit, Bool.and_eq_true, decide_eq_true_eq] at hdigit
  have hle : c.toNat ≤ 57 := hdigit.2
  omega

theorem allAscii_toString_int (n : Int) : AllAscii (toString n).toList := by
  cases n with
  | ofNat n => exact allAscii_toString_nat n
  | negSucc n => exact AllAscii.append (by decide) (allAscii_toString_nat (n + 1))

variable [Host]

theorem isPrinted_of_allAscii (h : AllAscii s.toList) : isPrinted s :=
  List.all_eq_true.mpr fun c hc => Host.prints_of_ascii (h c hc)

theorem isPrinted_append (s t : String) : isPrinted (s ++ t) = (isPrinted s && isPrinted t) := by
  simp [isPrinted, String.toList_append, List.all_append]

theorem isStandIn_of_lt {c : Char} (h : c.toNat < 0xE000) : isStandIn c = false := by
  rw [isStandIn, Option.isSome_eq_false_iff, Option.isNone_iff_eq_none,
    Option.eq_none_iff_forall_ne_some]
  intro s hs
  have hprivate := Host.isPrivateUse_of_surrogate? hs
  simp only [isPrivateUse, Bool.or_eq_true, Bool.and_eq_true, decide_eq_true_eq] at hprivate
  omega

theorem utf8?_eq_none_iff : utf8? s = none ↔ ∃ c ∈ s.toList, isStandIn c := by
  rw [utf8?, ← List.any_eq_true]
  split <;> simp [*]

theorem utf8?_append_eq_none_iff : utf8? (s ++ t) = none ↔ utf8? s = none ∨ utf8? t = none := by
  simp only [utf8?_eq_none_iff, String.toList_append, List.mem_append, or_and_right, exists_or]

theorem utf8?_ne_none_of_forall (h : ∀ c ∈ s.toList, c.toNat < 0xE000) : utf8? s ≠ none := by
  rw [Ne, utf8?_eq_none_iff]
  rintro ⟨c, hc, hstandIn⟩
  simp [isStandIn_of_lt (h c hc)] at hstandIn

theorem AllAscii.utf8?_ne_none (h : AllAscii s.toList) : utf8? s ≠ none :=
  utf8?_ne_none_of_forall fun c hc => Nat.lt_trans (h c hc) (by decide)

/-- A code point below the surrogates is that of the character itself. -/
theorem codeOf_of_lt {c : Char} (h : codeOf c < 0xD800) : codeOf c = c.toNat := by
  unfold codeOf at h ⊢
  cases hc : Host.surrogate? c with
  | none => rfl
  | some s =>
    rw [hc] at h
    have hle := s.first_le
    simp only [Option.map_some, Option.getD_some] at h
    omega

end Text

namespace Json
open Text

theorem allAscii_unit16 (n : Nat) : AllAscii (unit16 n) :=
  allAscii_cons_iff.mpr ⟨by decide, allAscii_cons_iff.mpr ⟨by decide, allAscii_hexDigits 4 n⟩⟩

theorem allAscii_newLine (depth : Nat) : AllAscii (newLine depth).toList := by
  rw [newLine, String.toList_ofList, allAscii_cons_iff]
  refine ⟨by decide, fun c hc => ?_⟩
  rw [(List.mem_replicate.mp hc).2]
  decide

theorem allAscii_block {opening closing : String} {items : List String}
    (hopening : AllAscii opening.toList) (hclosing : AllAscii closing.toList)
    (hitems : ∀ t ∈ items, AllAscii t.toList) (depth : Nat) :
    AllAscii (block opening closing depth items).toList := by
  have hcomma : AllAscii ("," ++ newLine (depth + 1)).toList :=
    AllAscii.append (by decide) (allAscii_newLine _)
  unfold block
  split
  · exact hopening.append hclosing
  · exact (((hopening.append (allAscii_newLine _)).append
      (allAscii_intercalate hcomma hitems)).append (allAscii_newLine _)).append hclosing

variable [Host]

theorem allAscii_escapeChar (c : Char) : AllAscii (escapeChar c) := by
  unfold escapeChar
  split
  · rename_i h
    rcases h with rfl | rfl <;> decide
  repeat'
    split
    · decide
  dsimp only
  split
  · rename_i h
    have hcode : codeOf c = c.toNat := codeOf_of_lt (by omega)
    exact allAscii_cons_iff.mpr ⟨by omega, List.forall_mem_nil _⟩
  split
  · exact allAscii_unit16 _
  · exact allAscii_append_iff.mpr ⟨allAscii_unit16 _, allAscii_unit16 _⟩

theorem allAscii_quoted (s : String) : AllAscii (quoted s).toList := by
  rw [quoted, String.toList_ofList, List.cons_append, allAscii_cons_iff, allAscii_append_iff]
  refine ⟨by decide, fun c hc => ?_, by decide⟩
  obtain ⟨d, _, hc⟩ := List.mem_flatMap.mp hc
  exact allAscii_escapeChar d c hc

mutual

theorem allAscii_textAt (depth : Nat) : ∀ v : Json, AllAscii (v.textAt depth).toList
  | null => (by decide : AllAscii "null".toList)
  | bool true => (by decide : AllAscii "true".toList)
  | bool false => (by decide : AllAscii "false".toList)
  | int n => allAscii_toString_int n
  | text s => allAscii_quoted s
  | list items => allAscii_block (by decide) (by decide) (allAscii_itemTexts (depth + 1) items) depth
  | object fields =>
    allAscii_block (by decide) (by decide) (allAscii_fieldTexts (depth + 1) fields) depth

theorem allAscii_itemTexts (depth : Nat) :
    ∀ items, ∀ t ∈ itemTexts depth items, AllAscii t.toList
  | [] => List.forall_mem_nil _
  | v :: items => List.forall_mem_cons.mpr ⟨allAscii_textAt depth v, allAscii_itemTexts depth items⟩

theorem allAscii_fieldTexts (depth : Nat) :
    ∀ fields, ∀ t ∈ fieldTexts depth fields, AllAscii t.toList
  | [] => List.forall_mem_nil _
  | (k, v) :: fields => List.forall_mem_cons.mpr
    ⟨((allAscii_quoted k).append (by decide)).append (allAscii_textAt depth v),
      allAscii_fieldTexts depth fields⟩

end

/-- A JSON text with a line end can be printed. -/
theorem isPrinted_render (v : Json) : isPrinted (v.render ++ "\n") :=
  isPrinted_of_allAscii ((allAscii_textAt 0 v).append (by decide))

end Json
end StructureDerive
