import StructureDerive.Proofs.Trimming
import StructureDerive.Value.Writing

/-! # Values as texts

A value that is no text is still written as one that is not blank. A scalar that is no text is written
without brackets or ends in a quote, so that it can never be taken for a call.
-/
namespace StructureDerive
open Text
variable {c : Char}

theorem toString_text (s : String) : toString s = s := rfl

theorem isDigit_of_mem_toDigits {n : Nat} (h : c ∈ Nat.toDigits 10 n) : c.isDigit :=
  Nat.isDigit_of_mem_toDigits (by omega) (by omega) h

theorem isBlank_of_mem_toDigits {n : Nat} (h : c ∈ Nat.toDigits 10 n) : isBlank c = false := by
  have hdigit := isDigit_of_mem_toDigits h
  simp only [Char.isDigit, Bool.and_eq_true, decide_eq_true_eq, ge_iff_le,
    UInt32.le_iff_toNat_le] at hdigit
  have hrange : 48 ≤ c.toNat ∧ c.toNat ≤ 57 := hdigit
  simp only [isBlank, Bool.or_eq_false_iff, Bool.and_eq_false_iff, beq_eq_false_iff_ne,
    decide_eq_false_iff_not]
  omega

@[simp]
theorem paren_not_mem_toDigits (n : Nat) : ')' ∉ Nat.toDigits 10 n := fun h => by
  have hdigit := isDigit_of_mem_toDigits h
  cases hdigit

@[simp]
theorem paren_not_mem_padded (width n : Nat) : ')' ∉ (Date.padded width n).toList := by
  simp [Date.padded]

@[simp]
theorem Date.paren_not_mem_text (d : Date) : ')' ∉ d.text.toList := by
  simp [Date.text, toString_text]

@[simp]
theorem Clock.paren_not_mem_text (k : Clock) : ')' ∉ k.text.toList := by
  unfold Clock.text
  split <;> simp [toString_text]

theorem Moment.paren_not_mem_text (m : Moment) : ')' ∉ m.text.toList := by
  cases hoffset : m.offset with
  | none => simp [Moment.text, toString_text, hoffset]
  | some minutes =>
    by_cases h : minutes < 0 <;> simp [Moment.text, Moment.offsetText, toString_text, hoffset, h]

namespace Binary64

theorem paren_not_mem_signText (negative : Bool) : ')' ∉ (signText negative).toList := by
  cases negative <;> decide

theorem paren_not_mem_positional {digits : List Char} (h : ')' ∉ digits) (place : Int) :
    ')' ∉ (positional digits place).toList := by
  have htake : ∀ n, ')' ∉ digits.take n := fun n hn => h (List.mem_of_mem_take hn)
  have hdrop : ∀ n, ')' ∉ digits.drop n := fun n hn => h (List.mem_of_mem_drop hn)
  unfold positional
  dsimp only
  split
  · simp [h]
  · split <;> simp [h, htake, hdrop]

theorem paren_not_mem_scientific {digits : List Char} (h : ')' ∉ digits) (exponent : Int) :
    ')' ∉ (scientific digits exponent).toList := by
  have htake : ∀ n, ')' ∉ digits.take n := fun n hn => h (List.mem_of_mem_take hn)
  have htail : ')' ∉ digits.tail := fun hn => h (List.mem_of_mem_tail hn)
  unfold scientific
  dsimp only
  split <;> split <;> split <;> simp [htake, htail]

theorem paren_not_mem_text (x : Binary64) : ')' ∉ x.text.toList := by
  unfold text
  split
  · decide
  · simp [paren_not_mem_signText]
  · simp [paren_not_mem_signText]
  · dsimp only
    have hdigits := paren_not_mem_toDigits
    split <;> simp [paren_not_mem_signText, paren_not_mem_positional, paren_not_mem_scientific]

/-- A finite number shows a point or an exponent. -/
theorem exists_not_blank_of_text (x : Binary64) : ∃ c ∈ x.text.toList, isBlank c = false := by
  have hpoint : isBlank '.' = false := by decide
  have hpower : isBlank 'e' = false := by decide
  unfold text
  split
  · exact ⟨'n', by decide, by decide⟩
  · exact ⟨'i', by simp, by decide⟩
  · exact ⟨'.', by simp, hpoint⟩
  · dsimp only
    split
    · refine ⟨'.', ?_, hpoint⟩
      unfold positional
      dsimp only
      split
      · simp
      · split <;> simp
    · refine ⟨'e', ?_, hpower⟩
      unfold scientific
      dsimp only
      split <;> split <;> simp

end Binary64

theorem Text.quoteFor_ne_paren (cs : List Char) : quoteFor cs ≠ ')' := by
  unfold quoteFor
  split <;> decide

theorem Text.getLast?_quotedBytes (content : List UInt8) :
    (quotedBytes content).toList.getLast? ≠ some ')' := by
  rw [quotedBytes, String.toList_ofList, List.getLast?_concat, ne_eq, Option.some.injEq]
  exact quoteFor_ne_paren _

variable [Host]

namespace Scalar
variable {s : Scalar}

theorem plain_ofNat (m : Nat) : (Scalar.int (.ofNat m)).plain = Nat.repr m := rfl

theorem plain_negSucc (m : Nat) : (Scalar.int (.negSucc m)).plain = "-" ++ Nat.repr (m + 1) := rfl

theorem paren_not_mem_plain (h : ∀ t, s ≠ .text t) (hbytes : ∀ content, s ≠ .bytes content) :
    ')' ∉ s.plain.toList := by
  cases s with
  | null => simp [plain, shown]
  | bool b => cases b <;> simp [plain, shown]
  | int n =>
    cases n with
    | ofNat m =>
      rw [plain_ofNat]
      simp [Nat.repr]
    | negSucc m =>
      rw [plain_negSucc]
      simp [Nat.repr]
  | real x => exact x.paren_not_mem_text
  | text t => exact absurd rfl (h t)
  | bytes content => exact absurd rfl (hbytes content)
  | date d => exact d.paren_not_mem_text
  | clock k => exact k.paren_not_mem_text
  | moment m => exact m.paren_not_mem_text

/-- No scalar but a text is written with a bracket at its end. -/
theorem getLast?_plain_ne_paren (h : ∀ t, s ≠ .text t) : s.plain.toList.getLast? ≠ some ')' := by
  by_cases hbytes : ∃ content, s = .bytes content
  · obtain ⟨content, rfl⟩ := hbytes
    exact Text.getLast?_quotedBytes content
  have hparen : ')' ∉ s.plain.toList := paren_not_mem_plain h fun content hs => hbytes ⟨content, hs⟩
  exact fun hlast => hparen (List.mem_of_getLast? hlast)

theorem exists_not_blank_of_plain (h : ∀ t, s ≠ .text t) :
    ∃ c ∈ s.plain.toList, isBlank c = false := by
  cases s with
  | null => exact ⟨'N', by simp [plain, shown], by decide⟩
  | bool b => cases b <;> exact ⟨'e', by simp [plain, shown], by decide⟩
  | int n =>
    have hdigit : ∀ m : Nat, ∃ c ∈ Nat.toDigits 10 m, isBlank c = false := fun m => by
      obtain ⟨c, hc⟩ := List.exists_mem_of_ne_nil _ (Nat.toDigits_ne_nil (b := 10) (n := m))
      exact ⟨c, hc, isBlank_of_mem_toDigits hc⟩
    cases n with
    | ofNat m =>
      obtain ⟨c, hc, hblank⟩ := hdigit m
      refine ⟨c, ?_, hblank⟩
      rw [plain_ofNat]
      simpa [Nat.repr] using hc
    | negSucc m => exact ⟨'-', by simp [plain_negSucc], by decide⟩
  | real x => exact x.exists_not_blank_of_text
  | text t => exact absurd rfl (h t)
  | bytes content => exact ⟨'b', by simp [plain, shown, Text.quotedBytes], by decide⟩
  | date d => exact ⟨'-', by simp [plain, Date.text, toString_text], by decide⟩
  | clock k => exact ⟨':', by simp [plain, Clock.text, toString_text], by decide⟩
  | moment m => exact ⟨'-', by simp [plain, Moment.text, Date.text, toString_text], by decide⟩

end Scalar

/-- Only a blank text is blank as a text. -/
theorem Value.allBlank_plain_iff {v : Value} :
    allBlank v.plain ↔ ∃ s, v = .text s ∧ allBlank s := by
  by_cases htext : ∃ s, v = .text s
  · obtain ⟨s, rfl⟩ := htext
    have hplain : (Value.text s).plain = s := rfl
    rw [hplain]
    constructor
    · exact fun h => ⟨s, rfl, h⟩
    · rintro ⟨_, ⟨⟩, h⟩
      exact h
  · have hvisible : ∃ c ∈ v.plain.toList, isBlank c = false := by
      cases v with
      | scalar s => exact Scalar.exists_not_blank_of_plain fun t ht => htext ⟨t, congrArg _ ht⟩
      | list items => exact ⟨'[', by simp [plain, shown], by decide⟩
      | tuple items =>
        refine ⟨'(', ?_, by decide⟩
        have hshown : (tuple items).plain = (tuple items).shown := rfl
        rw [hshown, shown.eq_def]
        split <;> simp_all
      | set items =>
        cases items with
        | nil => exact ⟨'s', by simp [plain, shown], by decide⟩
        | cons item items => exact ⟨'\x7b', by simp [plain, shown], by decide⟩
      | table fields => exact ⟨'\x7b', by simp [plain, shown], by decide⟩
    obtain ⟨c, hc, hblank⟩ := hvisible
    constructor
    · intro h
      rw [allBlank_iff.mp h c hc] at hblank
      cases hblank
    · rintro ⟨s, hs, _⟩
      exact absurd ⟨s, hs⟩ htext

end StructureDerive
