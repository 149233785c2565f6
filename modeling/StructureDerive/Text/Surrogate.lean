/-! # Surrogates

A surrogate is half of a character beyond the basic plane: a code point, but no character. A text that
holds one keeps a character of private use in its place.
-/
namespace StructureDerive

structure Surrogate where
  code : Nat
  first_le : 0xD800 ≤ code
  le_last : code ≤ 0xDFFF
deriving DecidableEq, Repr

namespace Text

/-- Characters that no script gives a meaning. -/
def isPrivateUse (c : Char) : Bool :=
  let n := c.toNat
  (0xE000 ≤ n && n ≤ 0xF8FF) || (0xF0000 ≤ n && n ≤ 0xFFFFD) || (0x100000 ≤ n && n ≤ 0x10FFFD)

def isSurrogate (n : Nat) : Bool := 0xD800 ≤ n && n ≤ 0xDFFF

/-- How far the usual stand-ins lie behind the surrogates. -/
def standInOffset : Nat := 0xF0000

/-- The character for a code point; the usual stand-in for a surrogate. -/
def ofCode? (n : Nat) : Option Char :=
  if isSurrogate n then some (Char.ofNat (n + standInOffset))
  else if n.isValidChar then some (Char.ofNat n)
  else none

/-- The surrogate that a character usually stands for. -/
def usualSurrogate? (c : Char) : Option Surrogate :=
  if h : 0xD800 ≤ c.toNat - standInOffset ∧ c.toNat - standInOffset ≤ 0xDFFF then
    some ⟨c.toNat - standInOffset, h.1, h.2⟩
  else none

theorem isPrivateUse_of_usualSurrogate? {c : Char} {s : Surrogate}
    (h : usualSurrogate? c = some s) : isPrivateUse c := by
  unfold usualSurrogate? at h
  split at h
  · rename_i hcode
    simp only [standInOffset] at hcode
    simp only [isPrivateUse, Bool.or_eq_true, Bool.and_eq_true, decide_eq_true_eq]
    omega
  · cases h

end Text
end StructureDerive
