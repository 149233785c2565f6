import StructureDerive.Host.Terminal
import StructureDerive.Proofs.Ascii
import StructureDerive.Proofs.FileWriting
import StructureDerive.Proofs.GenerationRun
import StructureDerive.Proofs.LineEndings
import StructureDerive.Proofs.Trimming

/-! # The bytes around a generated region

An update in place reads a file as a text and writes the whole text back. So it keeps the bytes around
the region only up to the line ends that were folded when they were read. The file itself holds no
surrogates, and a host has its stand-ins for them among the characters that the file does not hold.
-/
namespace StructureDerive
open Outcome
open Text (IsFirst IsUnbroken folded)

namespace Text
variable [Host] {s : String} {c : Char}

theorem utf8?_of_ne_none (h : utf8? s ≠ none) : utf8? s = some s.toUTF8 := by
  unfold utf8? at h ⊢
  split
  · rename_i hstandIn
    exact absurd (if_pos hstandIn) h
  · rfl

theorem utf8?_folded_ne_none (h : utf8? s ≠ none) : utf8? (folded s) ≠ none := by
  rw [Ne, utf8?_eq_none_iff] at h ⊢
  rintro ⟨c, hc, hstandIn⟩
  rw [toList_folded] at hc
  rcases mem_foldReturns hc with hc | rfl
  · exact h ⟨c, hc, hstandIn⟩
  · simp [isStandIn_of_lt (c := '\n') (by decide)] at hstandIn

theorem isStandIn_of_isBlank (h : isBlank c) : isStandIn c = false := by
  refine isStandIn_of_lt ?_
  simp only [isBlank, Bool.or_eq_true, Bool.and_eq_true, decide_eq_true_eq, beq_iff_eq] at h
  omega

theorem utf8?_stripRight_eq_none_iff : utf8? (stripRight s) = none ↔ utf8? s = none := by
  simp only [utf8?_eq_none_iff, stripRight, String.toList_ofList]
  refine exists_congr fun c => and_congr_left fun hstandIn => mem_trimRight_iff ?_
  rw [Bool.eq_false_iff]
  intro hblank
  rw [isStandIn_of_isBlank hblank] at hstandIn
  cases hstandIn

end Text

namespace Region
variable {text before middle after : String}

theorem isUnbroken_startMarker : IsUnbroken startMarker.toList :=
  ⟨by decide, by decide, by decide⟩

theorem isUnbroken_endMarker : IsUnbroken endMarker.toList :=
  ⟨by decide, by decide, by decide⟩

/-- The region of a text is found again when its line ends are folded. -/
theorem Parts.folded (h : Parts text before middle after) :
    Parts (folded text) (folded before) (folded middle) (folded after) := by
  refine ⟨?_, ?_, ?_⟩
  · rw [← String.toList_inj, h.text_eq]
    simp only [String.toList_append, Text.toList_folded, List.append_assoc,
      isUnbroken_startMarker.foldReturns_append, isUnbroken_endMarker.foldReturns_append]
  · rw [Text.toList_folded]
    exact h.start_first.foldReturns isUnbroken_startMarker
  · rw [Text.toList_folded]
    exact h.end_first.foldReturns isUnbroken_endMarker

/-- The bytes of a file around its first start marker and the first end marker after that. -/
structure ByteParts (content before middle after : ByteArray) : Prop where
  content_eq : content = before ++ startMarker.toUTF8 ++ middle ++ endMarker.toUTF8 ++ after
  start_first : ∀ b t, before ++ startMarker.toUTF8 = b ++ startMarker.toUTF8 ++ t → t = .empty
  end_first : ∀ b t, middle ++ endMarker.toUTF8 = b ++ endMarker.toUTF8 ++ t → t = .empty

/-- A text has a region if a start marker and an end marker stand one after the other in its bytes. -/
theorem exists_parts_of_bytes {u v w : ByteArray}
    (h : text.toUTF8 = u ++ startMarker.toUTF8 ++ v ++ endMarker.toUTF8 ++ w) :
    ∃ before middle after, Parts text before middle after := by
  simp only [String.toUTF8_eq_toByteArray, ByteArray.append_assoc] at h
  obtain ⟨u, rest, rfl, -, hrest⟩ := Text.exists_append_of_bytes (by decide) h
  obtain ⟨v, w, rfl, -, -⟩ := Text.exists_append_of_bytes (by decide) hrest
  have hinfix : Holds (u ++ startMarker ++ (v ++ endMarker ++ w)) startMarker :=
    ⟨u.toList, (v ++ endMarker ++ w).toList, by simp⟩
  obtain ⟨before, after, htext, hfirst⟩ := Text.exists_isFirst_of_infix hinfix
  have hsuffix : (v ++ endMarker ++ w).toList <:+ after := by
    refine hfirst.suffix (u := u.toList) ?_
    rw [← htext]
    simp only [String.toList_append]
  have hend : Holds (String.ofList after) endMarker := by
    rw [Holds, String.toList_ofList]
    refine List.IsInfix.trans ⟨v.toList, w.toList, ?_⟩ hsuffix.isInfix
    simp only [String.toList_append]
  have hwhole : u ++ startMarker ++ (v ++ endMarker ++ w) =
      String.ofList before ++ startMarker ++ String.ofList after := by
    rw [← String.toList_inj, htext]
    simp
  obtain ⟨middle, last, hparts⟩ := exists_parts hwhole (by rwa [String.toList_ofList]) hend
  exact ⟨_, middle, last, hparts⟩

/-- What stands around the markers in a text stands around them in its bytes. -/
theorem byteParts_iff :
    ByteParts text.toUTF8 before.toUTF8 middle.toUTF8 after.toUTF8 ↔
      Parts text before middle after := by
  constructor
  · rintro ⟨hcontent, hstart, hend⟩
    simp only [String.toUTF8_eq_toByteArray, ← String.toByteArray_append, String.toByteArray_inj]
      at hcontent hstart hend
    exact ⟨hcontent, Text.isFirst_of_bytes hstart, Text.isFirst_of_bytes hend⟩
  · rintro ⟨rfl, hstart, hend⟩
    refine ⟨?_, ?_, ?_⟩ <;> simp only [String.toUTF8_eq_toByteArray]
    · simp only [String.toByteArray_append]
    · exact Text.IsFirst.bytes (by decide) hstart
    · exact Text.IsFirst.bytes (by decide) hend

theorem Parts.unique {before' middle' after' : String} (h : Parts text before middle after)
    (h' : Parts text before' middle' after') : before = before' ∧ after = after' := by
  have hstart := h.splitAtFirst_start.symm.trans h'.splitAtFirst_start
  simp only [Option.some.injEq, Prod.mk.injEq, String.toList_inj] at hstart
  have hend := h.splitAtFirst_end
  rw [hstart.2] at hend
  have hafter := hend.symm.trans h'.splitAtFirst_end
  simp only [Option.some.injEq, Prod.mk.injEq, String.toList_inj] at hafter
  exact ⟨hstart.1, hafter.2⟩

/-- The parts of a text whose first markers are found by a search. -/
theorem parts_of_splitAtFirst
    (hstart : Text.splitAtFirst startMarker.toList (before ++ startMarker).toList =
      some (before.toList, []))
    (hend : Text.splitAtFirst endMarker.toList (middle ++ endMarker).toList =
      some (middle.toList, [])) (after : String) :
    Parts (before ++ startMarker ++ middle ++ endMarker ++ after) before middle after :=
  ⟨rfl, Text.isFirst_of_splitAtFirst hstart, Text.isFirst_of_splitAtFirst hend⟩

end Region

namespace Plan
open Region
variable {t : FileTree} {source path : Path} {options : Options} {withTests : Bool}
variable {drafted : Plan} {text before middle after : String} {content u v w : ByteArray}

theorem existingText_of_read (h : t.read path = .ok text.toUTF8) :
    existingText t path = .ok (folded text) := by
  obtain ⟨l, hl, hnode, _⟩ := FileTree.read_eq_ok_iff.mp h
  have hexists : t.pathExists path = .ok true := by
    rw [FileTree.pathExists, FileTree.lookup, hl]
    simp [hnode, bind, Except.bind, pure, Except.pure]
  have htext : t.readText path = .ok (folded text) := by
    rw [FileTree.readText, h]
    simp only [bind, Except.bind, Text.fromUTF8?_toUTF8]
    rfl
  rw [existingText, hexists]
  exact htext

section
variable [Host]

/-- A declaration file with a plan has one for every file with a region. -/
theorem compute_of_parts (hdrafted : compute t source options withTests none = .ok drafted)
    (hread : t.read path = .ok text.toUTF8) (hparts : Parts text before middle after) :
    compute t source options withTests (some path) = .ok { drafted with
      inPlace := true, target := some path, existing := folded text,
      updated := folded before ++ block drafted.generated ++ folded after } := by
  obtain ⟨catalog, hcatalog, declarations, hload, batch, hbatch, generated, hrender, hplace⟩ :=
    compute_eq_ok_iff.mp hdrafted
  cases hplace
  refine compute_eq_ok_iff.mpr
    ⟨catalog, hcatalog, declarations, hload, batch, hbatch, generated, hrender, ?_⟩
  have hupdate := update_of_parts hparts.folded generated
  rw [place, existingText_of_read hread]
  exact bind_eq_ok_iff.mpr ⟨_, rfl, bind_eq_ok_iff.mpr ⟨_, hupdate, rfl⟩⟩

/-- The text around a region can be encoded, since it was read. -/
theorem utf8?_around_eq_none_iff (htext : Text.utf8? text ≠ none)
    (hparts : Parts text before middle after) (generated : String) :
    Text.utf8? (folded before ++ block generated ++ folded after) = none ↔
      Text.utf8? generated = none := by
  rw [hparts.text_eq] at htext
  simp only [Ne, Text.utf8?_append_eq_none_iff, not_or] at htext
  have hbefore := Text.utf8?_folded_ne_none htext.1.1.1.1
  have hafter := Text.utf8?_folded_ne_none htext.2
  have hstart : Text.utf8? startMarker ≠ none := Text.AllAscii.utf8?_ne_none (by decide)
  have hend : Text.utf8? endMarker ≠ none := Text.AllAscii.utf8?_ne_none (by decide)
  have hfeed : Text.utf8? "\n" ≠ none := Text.AllAscii.utf8?_ne_none (by decide)
  simp [block, Text.utf8?_append_eq_none_iff, Text.utf8?_stripRight_eq_none_iff, hbefore, hafter,
    hstart, hend, hfeed]

/-- A text is written into a file as far as the file may be written. One that cannot be encoded
leaves an empty file behind. -/
theorem writeText_of_read (hrooted : t.IsRooted) (hread : t.read path = .ok content)
    (text : String) :
    (¬ t.AllowsWriting path → writeText t path text = .error .inaccessibleFile) ∧
    (t.AllowsWriting path → ∃ written, writeText t path text = .ok written ∧
      (Text.utf8? text = none → written.fault = some .unencodable ∧
        t.Replaced path .empty written.tree) ∧
      (Text.utf8? text ≠ none → written.fault = none ∧
        t.Replaced path text.toUTF8 written.tree)) := by
  by_cases h : Text.utf8? text = none
  · have hmap : writeText t path text = (t.write path .empty).map fun tree =>
        { fault := some .unencodable, tree } := by
      rw [writeText, h]
      rfl
    rw [hmap]
    refine (FileTree.map_write_of_read hrooted hread .empty _).imp_right fun hwritten hallows => ?_
    obtain ⟨t', ht', hreplaced⟩ := hwritten hallows
    exact ⟨_, ht', fun _ => ⟨rfl, hreplaced⟩, absurd h⟩
  · have hmap : writeText t path text = (t.write path text.toUTF8).map fun tree =>
        { bytes := text.toUTF8.size, output := some path, tree } := by
      rw [writeText, Text.utf8?_of_ne_none h]
      rfl
    rw [hmap]
    refine (FileTree.map_write_of_read hrooted hread text.toUTF8 _).imp_right fun hwritten hallows => ?_
    obtain ⟨t', ht', hreplaced⟩ := hwritten hallows
    exact ⟨_, ht', fun hnone => absurd hnone h, fun _ => ⟨rfl, hreplaced⟩⟩

/-- What a generation in place makes of a file with a region: the text around the region stays, with
its line ends folded. -/
theorem exists_plan_of_parts (hrooted : t.IsRooted)
    (hdrafted : compute t source options withTests none = .ok drafted)
    (hread : t.read path = .ok text.toUTF8) (htext : Text.utf8? text ≠ none)
    (hparts : Parts text before middle after) (out : Option Path) : ∃ plan,
      compute t source options withTests (some path) = .ok plan ∧
      plan.updated = folded before ++ block drafted.generated ++ folded after ∧
      (¬ t.AllowsWriting path → plan.execute t out = .error .inaccessibleFile) ∧
      (t.AllowsWriting path → ∃ written, plan.execute t out = .ok written ∧
        (Text.utf8? drafted.generated = none → written.fault = some .unencodable ∧
          t.Replaced path .empty written.tree) ∧
        (Text.utf8? drafted.generated ≠ none → written.fault = none ∧
          t.Replaced path plan.updated.toUTF8 written.tree)) := by
  have hwritten := writeText_of_read hrooted hread
    (folded before ++ block drafted.generated ++ folded after)
  rw [Ne, utf8?_around_eq_none_iff htext hparts] at hwritten
  refine ⟨_, compute_of_parts hdrafted hread hparts, rfl, ?_⟩
  rw [execute, if_pos rfl]
  exact hwritten

/-- A generation in place keeps the bytes around the region exactly when there is no carriage return
in them and the generated text can be encoded. Otherwise line ends are folded, or nothing is left. A
file that may not be written stays as it is. -/
theorem execute_keeps_bytes_iff (hrooted : t.IsRooted)
    (hdrafted : compute t source options withTests none = .ok drafted)
    (hread : t.read path = .ok content) (htext : Text.utf8? text = some content)
    (hmarkers : content = u ++ startMarker.toUTF8 ++ v ++ endMarker.toUTF8 ++ w)
    (out : Option Path) : ∃ plan, ∃ before middle after : String,
      compute t source options withTests (some path) = .ok plan ∧
      ByteParts content before.toUTF8 middle.toUTF8 after.toUTF8 ∧
      plan.updated = folded before ++ block drafted.generated ++ folded after ∧
      (¬ t.AllowsWriting path → plan.execute t out = .error .inaccessibleFile) ∧
      (t.AllowsWriting path → ∃ written, plan.execute t out = .ok written ∧
        (Text.utf8? drafted.generated = none → written.fault = some .unencodable ∧
          t.Replaced path .empty written.tree) ∧
        (Text.utf8? drafted.generated ≠ none → written.fault = none ∧
          t.Replaced path plan.updated.toUTF8 written.tree) ∧
        (written.tree.read path =
            .ok (before.toUTF8 ++ (block drafted.generated).toUTF8 ++ after.toUTF8) ↔
          Text.utf8? drafted.generated ≠ none ∧ '\r' ∉ before.toList ∧ '\r' ∉ after.toList)) := by
  have hencoded : Text.utf8? text ≠ none := by simp [htext]
  obtain rfl : text.toUTF8 = content :=
    Option.some.inj ((Text.utf8?_of_ne_none hencoded).symm.trans htext)
  obtain ⟨before, middle, after, hparts⟩ := exists_parts_of_bytes hmarkers
  obtain ⟨plan, hplan, hupdated, hdenied, hallowed⟩ :=
    exists_plan_of_parts hrooted hdrafted hread hencoded hparts out
  refine ⟨plan, before, middle, after, hplan, byteParts_iff.mpr hparts, hupdated, hdenied, ?_⟩
  intro hallows
  obtain ⟨written, hwritten, hfails, hsucceeds⟩ := hallowed hallows
  refine ⟨written, hwritten, hfails, hsucceeds, ?_⟩
  have hkept : before.toUTF8 ++ (block drafted.generated).toUTF8 ++ after.toUTF8 =
      (before ++ block drafted.generated ++ after).toUTF8 := by
    simp only [String.toUTF8_eq_toByteArray, String.toByteArray_append]
  rw [hkept, ← Text.folded_around_iff (block drafted.generated), ← hupdated]
  by_cases h : Text.utf8? drafted.generated = none
  · rw [(hfails h).2.read hread, Except.ok.injEq]
    refine iff_of_false (fun hempty => ?_) fun hencoded => hencoded.1 h
    rw [String.toUTF8_eq_toByteArray, ← String.toByteArray_empty, String.toByteArray_inj] at hempty
    have hlist := congrArg String.toList hempty
    simp [block] at hlist
  · rw [(hsucceeds h).2.read hread, Except.ok.injEq, String.toUTF8_eq_toByteArray,
      String.toUTF8_eq_toByteArray, String.toByteArray_inj]
    exact (and_iff_right h).symm

end

/-- A folder with an empty declaration file and a file of code. -/
def treeWithCode (code : String) : FileTree where
  nodes := [(["d.toml"], .file "targets = []".toUTF8), (["lib.rs"], .file code.toUTF8)]

theorem isRooted_treeWithCode (code : String) : (treeWithCode code).IsRooted := by
  intro entry hentry
  simp only [treeWithCode, List.mem_cons, List.not_mem_nil, or_false] at hentry
  rcases hentry with rfl | rfl <;> rfl

theorem read_treeWithCode (code : String) :
    (treeWithCode code).read ⟨"", ["lib.rs"]⟩ = .ok code.toUTF8 := rfl

theorem allowsWriting_treeWithCode (code : String) (p : Path) :
    (treeWithCode code).AllowsWriting p := fun _ _ => List.not_mem_nil

attribute [local instance] Host.terminal

theorem execute_keeps_line_feeds :
    let before := "fn divide() \x7b\x7d\n"
    let middle := "\nold\n"
    let after := "\nfn multiply() \x7b\x7d\n"
    let text := before ++ startMarker ++ middle ++ endMarker ++ after
    let path : Path := ⟨"", ["lib.rs"]⟩
    ∃ plan written,
      compute (treeWithCode text) ⟨"", ["d.toml"]⟩ {} true (some path) = .ok plan ∧
      plan.execute (treeWithCode text) none = .ok written ∧ written.fault = none ∧
      written.tree.read path = .ok (before.toUTF8 ++ (block "").toUTF8 ++ after.toUTF8) := by
  intro before middle after text path
  have hparts : Parts text before middle after :=
    parts_of_splitAtFirst (by decide +kernel) (by decide +kernel) after
  have htext : Text.utf8? text = some text.toUTF8 :=
    Text.utf8?_of_ne_none (Text.AllAscii.utf8?_ne_none (by decide +kernel))
  have hany : (compute (treeWithCode text) ⟨"", ["d.toml"]⟩ {} true none).toOption.any
      (·.generated = "") := by decide +kernel
  obtain ⟨drafted, hdrafted, hgenerated⟩ := exists_ok_of_any hany
  rw [decide_eq_true_eq] at hgenerated
  obtain ⟨plan, _, _, _, hplan, hfound, -, -, hallowed⟩ :=
    execute_keeps_bytes_iff (isRooted_treeWithCode text) hdrafted (read_treeWithCode text) htext
      (byteParts_iff.mpr hparts).content_eq none
  obtain ⟨written, hwritten, -, hsucceeds, hkeeps⟩ :=
    hallowed (allowsWriting_treeWithCode text path)
  obtain ⟨rfl, rfl⟩ := hparts.unique (byteParts_iff.mp hfound)
  rw [hgenerated] at hsucceeds hkeeps
  have hencoded : Text.utf8? "" ≠ none := Text.AllAscii.utf8?_ne_none (by decide)
  exact ⟨plan, written, hplan, hwritten, (hsucceeds hencoded).1,
    hkeeps.mpr ⟨hencoded, by decide +kernel, by decide +kernel⟩⟩

/-- A file with other line ends has them changed around the region. -/
theorem execute_folds_returns :
    let before := "fn divide() \x7b\x7d\r\n"
    let middle := "\r\nold\r\n"
    let after := "\r\nfn multiply() \x7b\x7d\r\n"
    let text := before ++ startMarker ++ middle ++ endMarker ++ after
    let t := treeWithCode text
    let path : Path := ⟨"", ["lib.rs"]⟩
    t.IsRooted ∧ t.AllowsWriting path ∧ t.read path = .ok text.toUTF8 ∧
      Text.utf8? text = some text.toUTF8 ∧
      ByteParts text.toUTF8 before.toUTF8 middle.toUTF8 after.toUTF8 ∧
      ∃ plan written content, compute t ⟨"", ["d.toml"]⟩ {} true (some path) = .ok plan ∧
        plan.execute t none = .ok written ∧ written.fault = none ∧
        written.tree.read path = .ok content ∧
        ∀ inner rest, ¬ ByteParts content before.toUTF8 inner rest := by
  intro before middle after text t path
  have hparts : Parts text before middle after :=
    parts_of_splitAtFirst (by decide +kernel) (by decide +kernel) after
  have htext : Text.utf8? text ≠ none := Text.AllAscii.utf8?_ne_none (by decide +kernel)
  have hany : (compute t ⟨"", ["d.toml"]⟩ {} true none).toOption.any (·.generated = "") := by
    decide +kernel
  obtain ⟨drafted, hdrafted, hgenerated⟩ := exists_ok_of_any hany
  rw [decide_eq_true_eq] at hgenerated
  have hallows := allowsWriting_treeWithCode text path
  obtain ⟨plan, hplan, hupdated, -, hallowed⟩ := exists_plan_of_parts (isRooted_treeWithCode text)
    hdrafted (read_treeWithCode text) htext hparts none
  obtain ⟨written, hwritten, -, hsucceeds⟩ := hallowed hallows
  rw [hgenerated] at hupdated hsucceeds
  obtain ⟨hfault, hreplaced⟩ := hsucceeds (Text.AllAscii.utf8?_ne_none (by decide))
  refine ⟨isRooted_treeWithCode text, hallows, read_treeWithCode text, Text.utf8?_of_ne_none htext,
    byteParts_iff.mpr hparts, plan, written, _, hplan, hwritten, hfault,
    hreplaced.read (read_treeWithCode text), ?_⟩
  intro inner rest h
  have hcontent := h.content_eq
  simp only [String.toUTF8_eq_toByteArray, ByteArray.append_assoc] at hcontent
  obtain ⟨last, htext, -⟩ := Text.exists_append_of_toByteArray hcontent
  -- the carriage return before the region is gone
  have hcount := congrArg (fun s : String => s.toList.count '\r') (hupdated.symm.trans htext)
  simp only [String.toList_append, List.count_append, Text.count_return_folded] at hcount
  have hblock : (block "").toList.count '\r' = 0 := by decide +kernel
  have hbefore : before.toList.count '\r' = 1 := by decide +kernel
  omega

end Plan
end StructureDerive
