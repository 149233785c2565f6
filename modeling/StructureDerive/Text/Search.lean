/-! # Search in texts

The first occurrence of one text in another.
-/
namespace StructureDerive.Text

/-- What stands before the first occurrence of a text and what stands after it. -/
def splitAtFirst (needle : List Char) : List Char → Option (List Char × List Char)
  | [] => if needle.isEmpty then some ([], []) else none
  | c :: rest =>
    if needle.isPrefixOf (c :: rest) then some ([], (c :: rest).drop needle.length)
    else (splitAtFirst needle rest).map fun (before, after) => (c :: before, after)

def occursIn (needle text : List Char) : Bool := (splitAtFirst needle text).isSome

theorem append_of_splitAtFirst {needle text before after : List Char}
    (h : splitAtFirst needle text = some (before, after)) : text = before ++ needle ++ after := by
  induction text generalizing before after with
  | nil => simp_all [splitAtFirst]
  | cons c rest ih =>
    rw [splitAtFirst] at h
    split at h
    · rename_i hp
      obtain ⟨t, ht⟩ := List.isPrefixOf_iff_prefix.1 hp
      simp only [Option.some.injEq, Prod.mk.injEq] at h
      rw [← h.1, ← h.2, ← ht]
      simp
    · obtain ⟨⟨b, a⟩, hs, hb⟩ := Option.map_eq_some_iff.1 h
      simp only [Prod.mk.injEq] at hb
      rw [← hb.1, ← hb.2, ih hs]
      simp

end StructureDerive.Text
