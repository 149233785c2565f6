import StructureDerive.Proofs.Region

/-! # Start markers without an end

An update of a text with a start marker but no end marker puts a whole region at the end of the text
and leaves the old marker in place. The next update takes that old marker for the start of the
region, and with it goes everything that was written after it.
-/
namespace StructureDerive

namespace Text
variable {u v : List Char} {x : Char}

/-- Trimming stops at a character that is no blank, whatever stands before it. -/
theorem trimRight_append_cons (hx : isBlank x = false) (u v : List Char) :
    trimRight (u ++ x :: v) = u ++ x :: trimRight v := by
  have hreverse : (u ++ x :: v).reverse = v.reverse ++ x :: u.reverse := by simp
  rw [trimRight, trimRight, hreverse, List.dropWhile_append]
  split
  · rename_i hblank
    rw [List.isEmpty_iff.mp hblank, List.dropWhile_cons, if_neg (by simp [hx])]
    simp
  · simp

end Text

namespace Region
open Text (IsFirst)
variable {text before after rest generated result : String}

/-- An update of a text with both markers has found a region to replace. -/
theorem exists_parts_of_update (h : update text generated = .ok result)
    (hstart : Holds text startMarker) (hend : Holds text endMarker) :
    ∃ before middle after, Parts text before middle after := by
  rw [update, if_pos (hasMarkers_iff.mpr ⟨hstart, hend⟩), replace] at h
  cases hs : Text.splitAtFirst startMarker.toList text.toList with
  | none => simp [hs] at h
  | some found =>
    obtain ⟨before, rest⟩ := found
    cases he : Text.splitAtFirst endMarker.toList rest with
    | none => simp [hs, he] at h
    | some found =>
      obtain ⟨middle, after⟩ := found
      obtain ⟨htext, hfirst⟩ := Text.splitAtFirst_eq_some_iff.mp hs
      obtain ⟨hrest, hlast⟩ := Text.splitAtFirst_eq_some_iff.mp he
      refine ⟨String.ofList before, String.ofList middle, String.ofList after, ?_, ?_, ?_⟩
      · rw [← String.toList_inj, htext, hrest]
        simp
      · simpa using hfirst
      · simpa using hlast

theorem exists_framed_of_update (h : update text generated = .ok result)
    (hpaired : Holds text startMarker → Holds text endMarker) :
    ∃ before after, Framed text before after := by
  by_cases hstart : Holds text startMarker
  · obtain ⟨before, middle, after, hparts⟩ := exists_parts_of_update h hstart (hpaired hstart)
    exact ⟨before, after, framed_of_parts hparts⟩
  · exact ⟨_, _, framed_of_not_holds hstart⟩

/-- Nothing changes when the same code is generated into the same frame again. -/
theorem Framed.update_update (h : Framed text before after) (hfree : ¬ Holds generated endMarker)
    (hresult : update text generated = .ok result) : update result generated = .ok result := by
  rw [h.update_eq, Except.ok.injEq] at hresult
  rw [← hresult]
  exact update_of_parts (parts_update h.start_first hfree) generated

theorem getLast?_startMarker : startMarker.toList.getLast? = some 'd' := by simp [startMarker]

theorem not_infix_startMarker : ¬ endMarker.toList <:+: startMarker.toList := by
  simp [startMarker, endMarker, List.infix_cons_iff]

/-- A start marker without an end marker is kept, with all that follows it but trailing blanks. -/
theorem update_of_dangling (htext : text = before ++ startMarker ++ rest)
    (hend : ¬ Holds text endMarker) (generated : String) : update text generated =
      .ok (before ++ startMarker ++ Text.stripRight rest ++ "\n\n" ++ block generated ++ "\n") := by
  have hmarkers : ¬ hasMarkers text := fun hm => hend (hasMarkers_iff.mp hm).2
  obtain ⟨marker, hmarker⟩ := List.getLast?_eq_some_iff.mp getLast?_startMarker
  have hlast : Text.isBlank 'd' = false := by decide
  have hlist : text.toList = (before.toList ++ marker) ++ 'd' :: rest.toList := by
    simp [htext, hmarker]
  have hblank : ¬ Text.allBlank text := by
    simp [Text.allBlank, hlist, hlast]
  have hstrip : Text.stripRight text = before ++ startMarker ++ Text.stripRight rest := by
    rw [← String.toList_inj, Text.stripRight, hlist, Text.trimRight_append_cons hlast]
    simp [Text.stripRight, hmarker]
  rw [update, if_neg hmarkers, append, if_neg hblank, hstrip]

/-- The first end marker after a dangling start marker is that of the region put behind it. -/
theorem parts_of_dangling (htext : text = before ++ startMarker ++ rest)
    (hstart : IsFirst startMarker.toList before.toList) (hend : ¬ Holds text endMarker)
    (hfree : ¬ Holds generated endMarker) :
    Parts (before ++ startMarker ++ Text.stripRight rest ++ "\n\n" ++ block generated ++ "\n")
      before
      (Text.stripRight rest ++ "\n\n" ++ startMarker ++ "\n" ++ Text.stripRight generated ++ "\n")
      "\n" := by
  refine ⟨by simp only [block, String.append_assoc], hstart, ?_⟩
  have hbreak : '\n' ∉ endMarker.toList := by decide
  have hrest : ¬ endMarker.toList <:+: Text.trimRight rest.toList := by
    intro h
    refine hend (h.trans ((Text.trimRight_prefix _).isInfix.trans ?_))
    exact ⟨(before ++ startMarker).toList, [], by simp [htext]⟩
  have hmiddle : ¬ endMarker.toList <:+: Text.trimRight rest.toList ++ '\n' :: ([] ++ '\n' ::
      (startMarker.toList ++ '\n' :: Text.trimRight generated.toList)) := by
    intro h
    rcases Text.infix_append_cons hbreak h with h | h
    · exact hrest h
    · rcases Text.infix_append_cons hbreak h with h | h
      · exact absurd (List.eq_nil_of_infix_nil h) (by decide)
      · rcases Text.infix_append_cons hbreak h with h | h
        · exact not_infix_startMarker h
        · exact hfree (h.trans (Text.trimRight_prefix _).isInfix)
  have hfirst := Text.isFirst_append_singleton hbreak hmiddle
  simpa [Text.stripRight] using hfirst

/-- The first update keeps what follows a dangling start marker, and the second one takes it for old
generated code. -/
theorem update_update_of_dangling (h : update text generated = .ok result)
    (htext : text = before ++ startMarker ++ rest)
    (hstart : IsFirst startMarker.toList before.toList)
    (hend : ¬ Holds text endMarker) (hfree : ¬ Holds generated endMarker) :
    result = before ++ startMarker ++ Text.stripRight rest ++ "\n\n" ++ block generated ++ "\n" ∧
      update result generated = .ok (before ++ block generated ++ "\n") := by
  rw [update_of_dangling htext hend, Except.ok.injEq] at h
  refine ⟨h.symm, ?_⟩
  rw [← h]
  exact update_of_parts (parts_of_dangling htext hstart hend hfree) generated

/-- An update can be repeated without a change exactly when the text does not start a region that it
never ends. Otherwise the first update keeps what follows the dangling start marker, and the second
one replaces all of it by the new region. -/
theorem update_twice_iff (h : update text generated = .ok result)
    (hfree : ¬ Holds generated endMarker) :
    (update result generated = .ok result ↔ (Holds text startMarker → Holds text endMarker)) ∧
    (∀ before rest, text = before ++ startMarker ++ rest →
      IsFirst startMarker.toList before.toList → ¬ Holds text endMarker →
        result =
            before ++ startMarker ++ Text.stripRight rest ++ "\n\n" ++ block generated ++ "\n" ∧
          update result generated = .ok (before ++ block generated ++ "\n")) := by
  refine ⟨⟨fun htwice hstart => ?_, fun hpaired => ?_⟩, fun _ _ htext hstart hend =>
    update_update_of_dangling h htext hstart hend hfree⟩
  · refine Decidable.byContradiction fun hend => ?_
    obtain ⟨before, rest, hlist, hfirst⟩ := Text.exists_isFirst_of_infix hstart
    have htext : text = String.ofList before ++ startMarker ++ String.ofList rest := by
      rw [← String.toList_inj, hlist]
      simp
    obtain ⟨hresult, hsecond⟩ :=
      update_update_of_dangling h htext (by simpa using hfirst) hend hfree
    rw [htwice, Except.ok.injEq, hresult] at hsecond
    -- the second result lacks one of the two start markers
    have hlength := congrArg String.length hsecond
    have hmarker : 0 < startMarker.length := by decide +kernel
    simp only [String.length_append] at hlength
    omega
  · obtain ⟨before, after, hframed⟩ := exists_framed_of_update h hpaired
    exact hframed.update_update hfree h

theorem update_twice_between_regions :
    let before := "// </algagen>\n"
    let middle := "\nold\n" ++ startMarker ++ "\nolder\n"
    let after := "\nfn divide() {}\n" ++ endMarker
    let text := before ++ startMarker ++ middle ++ endMarker ++ after
    let generated := "impl Loop for W {}\n"
    let result := before ++ block generated ++ after
    update text generated = .ok result ∧ ¬ Holds generated endMarker ∧
      (Holds text startMarker → Holds text endMarker) ∧ update result generated = .ok result := by
  intro before middle after text generated result
  have hstart : Text.splitAtFirst startMarker.toList (before ++ startMarker).toList =
      some (before.toList, []) := by decide +kernel
  have hend : Text.splitAtFirst endMarker.toList (middle ++ endMarker).toList =
      some (middle.toList, []) := by decide +kernel
  have hparts : Parts text before middle after :=
    ⟨rfl, Text.isFirst_of_splitAtFirst hstart, Text.isFirst_of_splitAtFirst hend⟩
  have h : update text generated = .ok result := update_of_parts hparts generated
  have hfree : ¬ Holds generated endMarker := by decide +kernel
  have hpaired : Holds text startMarker → Holds text endMarker := fun _ =>
    ⟨(before ++ startMarker ++ middle).toList, after.toList, by simp [text]⟩
  exact ⟨h, hfree, hpaired, (update_twice_iff h hfree).1.mpr hpaired⟩

/-- A helper function behind a dangling start marker outlives one update and is lost in the next. -/
theorem second_update_drops_helper :
    let rest := "\nfn helper() {}\n"
    let generated := "impl Loop for W {}\n"
    ∃ first second, update (startMarker ++ rest) generated = .ok first ∧
      update first generated = .ok second ∧ second ≠ first ∧ Holds first "fn helper() {}" ∧
        ¬ Holds second "fn helper() {}" ∧ ¬ Holds generated startMarker ∧
          ¬ Holds generated endMarker := by
  intro rest generated
  have htext : startMarker ++ rest = "" ++ startMarker ++ rest := by rw [String.empty_append]
  have hend : ¬ Holds (startMarker ++ rest) endMarker := by decide +kernel
  have hfree : ¬ Holds generated endMarker := by decide +kernel
  refine ⟨_, _, update_of_dangling htext hend generated,
    update_of_parts (parts_of_dangling htext (Text.isFirst_nil _) hend hfree) generated, ?_⟩
  decide +kernel

end Region
end StructureDerive
