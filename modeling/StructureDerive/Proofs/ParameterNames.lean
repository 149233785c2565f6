import StructureDerive.Host.Terminal
import StructureDerive.Proofs.ParameterList

/-! # The names of generic parameters

A lifetime or a type is read only if its name is one. What stands between the word of a const and
its colon is taken for its name as it is, blank or with blanks inside. So the argument list of a
type holds legal names exactly when every const is given an identifier, and only then are the names
certain to be split off again.
-/
namespace StructureDerive
open Outcome

namespace Text
variable {cs : List Char} {depth : Int} {before : Option Char}

/-- Characters that are neither brackets nor commas keep the depth. -/
theorem wholeDepth?_of_plain (h : ∀ c ∈ cs, c ∉ ['<', '(', '[', ')', ']', '>', ',']) :
    wholeDepth? depth before cs = some depth := by
  induction cs generalizing before with
  | nil => rfl
  | cons c cs ih =>
    have hc := h c List.mem_cons_self
    have hcomma : c ≠ ',' := by
      rintro rfl
      exact hc (by decide)
    have hdepth : depthAfter depth before c = depth := by
      simp only [List.mem_cons, not_or] at hc
      simp [depthAfter, hc]
    rw [wholeDepth?, hdepth, if_neg fun h => hcomma h.1]
    exact ih fun d hd => h d (List.mem_cons_of_mem c hd)

end Text

namespace Parameter
open Text
variable {p : Parameter} {given : Value} {values : List Value} {ps : List Parameter}

def hasLegalName (p : Parameter) : Bool :=
  match p.kind with
  | .lifetime => isLifetime p.name.toList
  | .type | .const => isIdentifier p.name.toList

/-- What a stripped text that declares a const has in the place of the name. -/
def constNameIn? (cs : List Char) : Option (List Char) :=
  if constWord <+: cs then some (nameAndBounds (cs.drop constWord.length)).1 else none

def constName? (given : Value) : Option (List Char) :=
  (given.text?.bind nonBlank?).bind fun text => constNameIn? text.toList

theorem hasLegalName_of_isNameOf {kind : ParameterKind} {name : List Char} (h : isNameOf kind name)
    (bounds : Option String) : hasLegalName ⟨kind, String.ofList name, bounds⟩ := by
  cases kind with
  | lifetime => simpa [hasLegalName, isNameOf] using h
  | type => simpa [hasLegalName, isNameOf] using h
  | const => cases h

theorem constNameIn?_of_reads {cs : List Char} (h : Reads cs p) :
    (p.kind = .const ∧ constNameIn? cs = some p.name.toList) ∨
      (p.kind ≠ .const ∧ constNameIn? cs = none ∧ p.hasLegalName) := by
  cases h with
  | @const rest name type hread _ =>
    have hword : constWord <+: constWord ++ rest := List.prefix_append constWord rest
    left
    rw [constNameIn?, if_pos hword, List.drop_left, hread]
    simp
  | bare hword _ hname =>
    right
    refine ⟨?_, if_neg hword, hasLegalName_of_isNameOf hname _⟩
    rintro rfl
    cases hname

theorem constName?_of_ofValue (h : ofValue given = .ok p) :
    (p.kind = .const ∧ constName? given = some p.name.toList) ∨
      (p.kind ≠ .const ∧ constName? given = none ∧ p.hasLegalName) := by
  unfold ofValue at h
  unfold constName?
  cases htext : given.text?.bind nonBlank? with
  | none => simp [htext] at h
  | some text =>
    rw [htext] at h
    exact constNameIn?_of_reads (parse_eq_ok_iff.mp h)

theorem hasLegalName_iff_of_ofValue (h : ofValue given = .ok p) :
    p.hasLegalName ↔ ∀ name ∈ constName? given, isIdentifier name := by
  rcases constName?_of_ofValue h with ⟨hkind, hname⟩ | ⟨_, hname, hlegal⟩
  · simp [hasLegalName, hkind, hname]
  · simp [hlegal, hname]

theorem forall_hasLegalName_iff (h : List.Forall₂ (fun v p => ofValue v = .ok p) values ps) :
    (∀ p ∈ ps, p.hasLegalName) ↔
      ∀ v ∈ values, ∀ name ∈ constName? v, isIdentifier name := by
  induction h with
  | nil => simp
  | cons hp _ ih =>
    rw [List.forall_mem_cons, List.forall_mem_cons, ih, hasLegalName_iff_of_ofValue hp]

theorem isIdentifierRest_of_mem_name (h : p.hasLegalName) {c : Char} (hc : c ∈ p.name.toList) :
    isIdentifierRest c ∨ c = '\'' := by
  unfold hasLegalName at h
  split at h
  · unfold isLifetime at h
    split at h
    · rename_i rest hname
      rw [hname] at hc
      rcases List.mem_cons.mp hc with rfl | hc
      · exact Or.inr rfl
      · exact Or.inl (isIdentifierRest_of_mem h hc)
    · cases h
  · exact Or.inl (isIdentifierRest_of_mem h hc)
  · exact Or.inl (isIdentifierRest_of_mem h hc)

theorem name_ne_nil (h : p.hasLegalName) : p.name.toList ≠ [] := by
  intro hnil
  unfold hasLegalName at h
  rw [hnil] at h
  split at h <;> cases h

theorem isTrimmed_name (h : p.hasLegalName) : IsTrimmed p.name.toList := by
  apply isTrimmed_of_forall
  intro c hc
  rcases isIdentifierRest_of_mem_name h hc with hrest | rfl
  · exact isBlank_of_isIdentifierRest hrest
  · decide

theorem wholeDepth?_name (h : p.hasLegalName) : wholeDepth? 0 none p.name.toList = some 0 := by
  apply wholeDepth?_of_plain
  intro c hc hplain
  have hnone : ∀ d ∈ ['<', '(', '[', ')', ']', '>', ','],
      isIdentifierRest d = false ∧ d ≠ '\'' := by simp [isIdentifierRest]
  obtain ⟨hnot, hquote⟩ := hnone c hplain
  rcases isIdentifierRest_of_mem_name h hc with hrest | rfl
  · rw [hnot] at hrest
    cases hrest
  · exact hquote rfl

end Parameter

namespace Generics
open Text Parameter
variable {g : Generics} {raw : Value}

/-- A text that holds these arguments, each of which is split off again. -/
def ListsArguments (text : String) (arguments : List String) : Prop :=
  if arguments = [] then text = ""
  else text = s!"<{commaList arguments}>" ∧ splitTopLevel (commaList arguments) = arguments

theorem named_listsArguments (h : ∀ p ∈ g.parameters, p.hasLegalName) :
    ListsArguments g.named (g.parameters.map (·.name)) := by
  unfold ListsArguments
  split
  · rename_i hnil
    have hempty : g.parameters = [] := List.map_eq_nil_iff.mp hnil
    simp [named, bracketed, hempty]
  · rename_i hne
    have hempty : g.parameters ≠ [] := fun hnil => hne (by rw [hnil]; rfl)
    refine ⟨by simp [named, bracketed, hempty], ?_⟩
    have htrimmed : ∀ s ∈ g.parameters.map (·.name), s.toList ≠ [] ∧ IsTrimmed s.toList := by
      intro s hs
      obtain ⟨p, hp, rfl⟩ := List.mem_map.mp hs
      exact ⟨name_ne_nil (h p hp), isTrimmed_name (h p hp)⟩
    have hdepth : ∀ cs ∈ (g.parameters.map (·.name)).map String.toList,
        wholeDepth? 0 none cs = some 0 := by
      intro cs hcs
      obtain ⟨s, hs, rfl⟩ := List.mem_map.mp hcs
      obtain ⟨p, hp, rfl⟩ := List.mem_map.mp hs
      exact wholeDepth?_name (h p hp)
    exact (splitTopLevel_commaList_iff htrimmed).mpr
      (keepsApart_iff.mpr (isSeparable_of_forall hdepth))

/-- Whatever a parameter list is read from, its lifetimes and types are named legally, and its
consts are exactly when the texts that declare them give identifiers. Then the arguments of the type
are the names of the parameters. -/
theorem legally_named_iff [Host] (h : Generics.parse raw = .ok g) :
    (∀ p ∈ g.parameters, p.kind ≠ .const → p.hasLegalName) ∧
      ∃ values, parameterValues raw = .ok values ∧ values.length = g.parameters.length ∧
        ((∀ p ∈ g.parameters, p.hasLegalName) ↔
          ∀ v ∈ values, ∀ name ∈ constName? v, isIdentifier name) ∧
        ((∀ p ∈ g.parameters, p.hasLegalName) →
          ListsArguments g.named (g.parameters.map (·.name))) := by
  obtain ⟨values, hvalues, hread⟩ := parse_eq_ok_iff.mp h
  refine ⟨?_, values, hvalues, hread.length_eq, forall_hasLegalName_iff hread,
    named_listsArguments⟩
  intro p hp hkind
  obtain ⟨v, _, hv⟩ := exists_of_mem_forall₂ hread hp
  rcases constName?_of_ofValue hv with ⟨hconst, _⟩ | ⟨_, _, hlegal⟩
  · exact absurd hconst hkind
  · exact hlegal

attribute [local instance] Host.terminal

theorem legally_named_spaced :
    let s := " <'a:'b , const N :usize, F: Fn(A, B) -> u8> "
    let g : Generics := ⟨[⟨.lifetime, "'a", some "'b"⟩, ⟨.const, "N", some "usize"⟩,
      ⟨.type, "F", some "Fn(A, B) -> u8"⟩]⟩
    Generics.parse (.text s) = .ok g ∧ (∀ p ∈ g.parameters, p.hasLegalName) ∧
      g.named = "<'a, N, F>" ∧ ListsArguments g.named ["'a", "N", "F"] := by
  intro s g
  have hparse : Generics.parse (.text s) = .ok g := toOption_eq_some_iff.mp (by decide +kernel)
  obtain ⟨_, values, hvalues, _, hiff, hlists⟩ := legally_named_iff hparse
  have hnames : ∀ v ∈ (parameterTexts s).map Value.text, ∀ name ∈ constName? v, isIdentifier name :=
    List.forall_mem_map.mpr (by decide +kernel)
  obtain rfl : (parameterTexts s).map Value.text = values := Except.ok.inj hvalues
  have hlegal := hiff.mpr hnames
  exact ⟨hparse, hlegal, by decide +kernel, hlists hlegal⟩

/-- Two words are taken for the name of a const, and so is none at all. -/
theorem const_named_by_two_words :
    ∃ g, Generics.parse (.list [.text "const N M: usize", .text "const : usize"]) = .ok g ∧
      g.named = "<N M, >" ∧ ¬ (∀ p ∈ g.parameters, p.hasLegalName) ∧
        ¬ ListsArguments g.named (g.parameters.map (·.name)) := by
  have hparse : Generics.parse (.list [.text "const N M: usize", .text "const : usize"]) =
      .ok ⟨[⟨.const, "N M", some "usize"⟩, ⟨.const, "", some "usize"⟩]⟩ :=
    toOption_eq_some_iff.mp (by decide +kernel)
  refine ⟨_, hparse, by decide +kernel, by decide +kernel, ?_⟩
  rintro ⟨_, hsplit⟩
  revert hsplit
  decide +kernel

end Generics
end StructureDerive
