import Mathlib.Data.List.Chain
import StructureDerive.Catalog.Standard
import StructureDerive.Host.Terminal
import StructureDerive.Proofs.EntryArgument
import StructureDerive.Proofs.Expansion

/-! # The grammar of trait entries

Which lists of entries are read, what is read from them, and which entry is to blame when a list is
turned down: the first one that does not fit after those in front of it. The reader looks one entry
ahead for a clause, so the statements are about an entry and the one before it or after it.
-/
namespace StructureDerive.TraitEntry
open Outcome
variable {c : Catalog} {d e w : TraitEntry} {es rest : List TraitEntry} {given bad : Value}
variable {cause : Cause} {index : Nat}

/-- An entry that asks for a kind of the catalog. -/
structure Declares (c : Catalog) (e : TraitEntry) : Prop where
  key_ne : e.key ≠ whereKey
  known : ∃ entry, c.find? e.key = some entry
  operators : e.argument.IsOperators

/-- An entry that holds a clause. -/
structure Refines (e : TraitEntry) : Prop where
  key_eq : e.key = whereKey
  clause : ∃ s, e.argument = .text s ∧ ¬ Text.allBlank s

/-- A clause stands right after what it refines, so there is none in front and no two in a row. -/
structure Grammatical (c : Catalog) (es : List TraitEntry) : Prop where
  entries : ∀ e ∈ es, Declares c e ∨ Refines e
  leading : ∀ e ∈ es.head?, e.key ≠ whereKey
  apart : es.IsChain fun d e => d.key = whereKey → e.key ≠ whereKey

/-- The cause for which an entry is turned down after the one in front of it, if there is one. Each
rule presupposes that the rules above it for the same key do not apply. -/
inductive Offends (c : Catalog) : Option TraitEntry → TraitEntry → Cause → Prop where
  | leading {e : TraitEntry} : e.key = whereKey → Offends c none e .leadingWhere
  | adjacent {d e : TraitEntry} : e.key = whereKey → d.key = whereKey →
      Offends c (some d) e .adjacentWhere
  | clause {d e : TraitEntry} : e.key = whereKey → d.key ≠ whereKey →
      (∀ s, e.argument = .text s → Text.allBlank s) →
      Offends c (some d) e (.malformedWhere e.argument)
  | kind {d? : Option TraitEntry} {e : TraitEntry} : e.key ≠ whereKey → c.find? e.key = none →
      Offends c d? e (.unknownKind e.key (c.closest e.key))
  | operator {d? : Option TraitEntry} {e : TraitEntry} {entry : Entry} {bad : Value} :
      e.key ≠ whereKey → c.find? e.key = some entry → e.argument.FirstBad bad →
      Offends c d? e (.malformedOperator e.key bad)
  | operands {d? : Option TraitEntry} {e : TraitEntry} {entry : Entry} :
      e.key ≠ whereKey → c.find? e.key = some entry → e.argument.HasNoOperators →
      Offends c d? e (.arityMismatch e.key entry.arity 0)

theorem request_eq_ok_iff (hkey : e.key ≠ whereKey) {r : Request} :
    request c index e = .ok r ↔ Declares c e ∧
      r = { kind := e.key, operators := e.argument.operatorTexts, index := index } := by
  unfold request
  simp only [bind_eq_ok_iff, Catalog.lookup_eq_ok_iff, operators_eq_ok_iff]
  constructor
  · rintro ⟨entry, hentry, _, ⟨hops, rfl⟩, h⟩
    split at h
    · cases h
    · rename_i hne
      cases h
      have hsome := hops.resolve_right fun hnone => hne (operatorTexts_isEmpty hnone)
      exact ⟨⟨hkey, ⟨entry, hentry⟩, hsome⟩, rfl⟩
  · rintro ⟨⟨_, ⟨entry, hentry⟩, hops⟩, rfl⟩
    refine ⟨entry, hentry, _, ⟨Or.inl hops, rfl⟩, ?_⟩
    rw [if_neg]
    · rfl
    · simpa using operatorTexts_ne_nil hops

/-- For entries that are no clauses it makes no difference what stands in front of them. -/
theorem request_eq_error_iff (hkey : e.key ≠ whereKey) (d? : Option TraitEntry) :
    request c index e = .error cause ↔ Offends c d? e cause := by
  unfold request
  simp only [bind_eq_error_iff, Catalog.lookup_eq_ok_iff, Catalog.lookup_eq_error_iff,
    operators_eq_ok_iff, operators_eq_error_iff]
  constructor
  · rintro (⟨hnone, rfl⟩ | ⟨entry, hentry, ⟨bad, hbad, rfl⟩ | ⟨_, ⟨hops, rfl⟩, h⟩⟩)
    · exact .kind hkey hnone
    · exact .operator hkey hentry hbad
    · split at h
      · rename_i hempty
        cases h
        refine .operands hkey hentry (hops.resolve_left fun hops => operatorTexts_ne_nil hops ?_)
        exact List.isEmpty_iff.mp hempty
      · cases h
  · intro h
    cases h with
    | leading hwhere => exact absurd hwhere hkey
    | adjacent hwhere => exact absurd hwhere hkey
    | clause hwhere => exact absurd hwhere hkey
    | kind _ hnone => exact Or.inl ⟨hnone, rfl⟩
    | operator _ hentry hbad => exact Or.inr ⟨_, hentry, Or.inl ⟨_, hbad, rfl⟩⟩
    | operands _ hentry hnone =>
      refine Or.inr ⟨_, hentry, Or.inr ⟨_, ⟨Or.inr hnone, rfl⟩, ?_⟩⟩
      rw [if_pos (operatorTexts_isEmpty hnone)]
      rfl

/-- What a `Where` entry is turned down for, if it is. -/
def whereCause (d? : Option TraitEntry) (e : TraitEntry) : Cause :=
  match d? with
  | none => .leadingWhere
  | some d => if d.key = whereKey then .adjacentWhere else .malformedWhere e.argument

theorem Offends.eq_whereCause {d? : Option TraitEntry} (h : Offends c d? e cause)
    (hkey : e.key = whereKey) : cause = whereCause d? e := by
  cases h with
  | leading => rfl
  | adjacent _ hd => exact (if_pos hd).symm
  | clause _ hd => exact (if_neg hd).symm
  | kind hne => exact absurd hkey hne
  | operator hne => exact absurd hkey hne
  | operands hne => exact absurd hkey hne

theorem Offends.unique {d? : Option TraitEntry} {cause' : Cause} (h : Offends c d? e cause)
    (h' : Offends c d? e cause') : cause = cause' := by
  by_cases hkey : e.key = whereKey
  · rw [h.eq_whereCause hkey, h'.eq_whereCause hkey]
  · have hcause : request c 0 e = .error cause := (request_eq_error_iff hkey d?).mpr h
    have hcause' : request c 0 e = .error cause' := (request_eq_error_iff hkey d?).mpr h'
    exact Except.error.inj (hcause.symm.trans hcause')

theorem grammatical_nil (c : Catalog) : Grammatical c [] :=
  ⟨by simp, by simp, .nil⟩

/-- An entry in front of a list that does not begin with a clause. -/
theorem grammatical_cons_iff (he : e.key ≠ whereKey) (hes : ∀ d ∈ es.head?, d.key ≠ whereKey) :
    Grammatical c (e :: es) ↔ Declares c e ∧ Grammatical c es := by
  constructor
  · intro h
    obtain ⟨hentry, hentries⟩ := List.forall_mem_cons.mp h.entries
    have hdeclares := hentry.resolve_right fun hw => he hw.key_eq
    exact ⟨hdeclares, hentries, hes, (List.isChain_cons.mp h.apart).2⟩
  · rintro ⟨hentry, h⟩
    refine ⟨List.forall_mem_cons.mpr ⟨Or.inl hentry, h.entries⟩, ?_, ?_⟩
    · rintro _ ⟨⟩
      exact he
    · exact List.isChain_cons.mpr ⟨fun _ _ hkey => absurd hkey he, h.apart⟩

/-- An entry and its clause in front of a list. -/
theorem grammatical_cons_cons_iff (he : e.key ≠ whereKey) (hw : w.key = whereKey) :
    Grammatical c (e :: w :: es) ↔ Declares c e ∧ Refines w ∧ Grammatical c es := by
  constructor
  · intro h
    obtain ⟨hentry, hrest⟩ := List.forall_mem_cons.mp h.entries
    obtain ⟨hclause, hentries⟩ := List.forall_mem_cons.mp hrest
    obtain ⟨hnext, hapart⟩ := List.isChain_cons.mp (List.isChain_cons.mp h.apart).2
    exact ⟨hentry.resolve_right fun hr => he hr.key_eq,
      hclause.resolve_left fun hd => hd.key_ne hw, hentries, fun d hd => hnext d hd hw, hapart⟩
  · rintro ⟨hentry, hclause, h⟩
    refine ⟨?_, ?_, ?_⟩
    · exact List.forall_mem_cons.mpr
        ⟨Or.inl hentry, List.forall_mem_cons.mpr ⟨Or.inr hclause, h.entries⟩⟩
    · rintro _ ⟨⟩
      exact he
    · refine List.isChain_cons.mpr ⟨fun _ _ hkey => absurd hkey he, ?_⟩
      exact List.isChain_cons.mpr ⟨fun d hd _ => h.leading d hd, h.apart⟩

theorem not_grammatical_of_where (he : e.key = whereKey) : ¬ Grammatical c (e :: es) :=
  fun h => h.leading e rfl he

/-- Each entry with the one right after it. -/
def withNext : List TraitEntry → List (TraitEntry × Option TraitEntry)
  | [] => []
  | e :: rest => (e, rest.head?) :: withNext rest

/-- The stripped clause of an entry, unless it is no `Where` entry. -/
def clauseText (e : TraitEntry) : Option String :=
  if e.key = whereKey then e.argument.text?.map Text.strip else none

/-- What an entry asks for when `next` stands right after it. -/
def requestAt (index : Nat) (place : TraitEntry × Option TraitEntry) : Request where
  kind := place.1.key
  operators := place.1.argument.operatorTexts
  clause := place.2.bind clauseText
  index := index

/-- One request for each entry that is no `Where` entry. The ranks begin with `first`. -/
def requestList (first : Nat) (es : List TraitEntry) : List Request :=
  ((withNext es).filter (·.1.key ≠ whereKey)).mapIdx fun i => requestAt (first + i)

theorem requestList_cons_of_where (he : e.key = whereKey) :
    requestList index (e :: es) = requestList index es := by
  simp [requestList, withNext, he]

theorem requestList_cons (he : e.key ≠ whereKey) : requestList index (e :: es) =
    requestAt index (e, es.head?) :: requestList (index + 1) es := by
  simp [requestList, withNext, he, List.mapIdx_cons, Nat.add_assoc, Nat.add_comm 1]

theorem requestAt_of_not_where (hnext : ∀ d ∈ es.head?, d.key ≠ whereKey) :
    requestAt index (e, es.head?) =
      { kind := e.key, operators := e.argument.operatorTexts, index := index } := by
  have hclause : es.head?.bind clauseText = none := by
    rw [Option.bind_eq_none_iff]
    intro d hd
    exact if_neg (hnext d hd)
  rw [requestAt, hclause]

theorem requestAt_of_where {s : String} (hw : w.key = whereKey) (hs : w.argument = .text s) :
    requestAt index (e, some w) =
      { kind := e.key, operators := e.argument.operatorTexts, clause := some (Text.strip s),
        index := index } := by
  simp [requestAt, clauseText, hw, hs, Value.text?]

/-- Lists are read exactly when they follow the grammar, and give one request for each entry that
is no clause. -/
theorem requestsFrom_eq_ok_iff {rs : List Request} : requestsFrom c index es = .ok rs ↔
    Grammatical c es ∧ rs = requestList index es := by
  fun_induction requestsFrom c index es generalizing rs with
  | case1 index => simp [grammatical_nil, requestList, withNext, eq_comm]
  | case2 index e he => simp [not_grammatical_of_where he]
  | case3 index e he =>
    rw [map_eq_ok_iff, grammatical_cons_iff he (by simp), requestList_cons he,
      requestAt_of_not_where (by simp)]
    simp only [request_eq_ok_iff he, grammatical_nil, and_true]
    constructor
    · rintro ⟨_, ⟨hdeclares, rfl⟩, rfl⟩
      exact ⟨hdeclares, rfl⟩
    · rintro ⟨hdeclares, rfl⟩
      exact ⟨_, ⟨hdeclares, rfl⟩, rfl⟩
  | case4 index e next rest he => simp [not_grammatical_of_where he]
  | case5 index e next rest he ihrest ihnext =>
    by_cases hnext : next.key = whereKey
    · simp only [if_pos hnext, bind_eq_ok_iff, request_eq_ok_iff he, ihrest, clause_eq_ok_iff,
        grammatical_cons_cons_iff he hnext, requestList_cons he, requestList_cons_of_where hnext]
      constructor
      · rintro ⟨_, ⟨hdeclares, rfl⟩, _, ⟨s, hs, hblank, rfl⟩, _, ⟨hrest, rfl⟩, ⟨⟩⟩
        exact ⟨⟨hdeclares, ⟨hnext, s, hs, hblank⟩, hrest⟩,
          by rw [List.head?_cons, requestAt_of_where hnext hs]⟩
      · rintro ⟨⟨hdeclares, ⟨_, s, hs, hblank⟩, hrest⟩, rfl⟩
        refine ⟨_, ⟨hdeclares, rfl⟩, _, ⟨s, hs, hblank, rfl⟩, _, ⟨hrest, rfl⟩, ?_⟩
        rw [List.head?_cons, requestAt_of_where hnext hs]
        rfl
    · have hhead : ∀ d ∈ (next :: rest).head?, d.key ≠ whereKey := by
        rintro _ ⟨⟩
        exact hnext
      simp only [if_neg hnext, bind_eq_ok_iff, request_eq_ok_iff he, ihnext,
        grammatical_cons_iff he hhead, requestList_cons he, requestAt_of_not_where hhead]
      constructor
      · rintro ⟨_, ⟨hdeclares, rfl⟩, _, ⟨hrest, rfl⟩, ⟨⟩⟩
        exact ⟨⟨hdeclares, hrest⟩, rfl⟩
      · rintro ⟨⟨hdeclares, hrest⟩, rfl⟩
        exact ⟨_, ⟨hdeclares, rfl⟩, _, ⟨hrest, rfl⟩, rfl⟩

/-- The entry in front of a list that is not read from its beginning. -/
def Follows (index : Nat) (d? : Option TraitEntry) : Prop :=
  (index = 0 ∧ d? = none) ∨ ∃ w, index ≠ 0 ∧ d? = some w ∧ w.key = whereKey

theorem offends_strayWhere {d? : Option TraitEntry} (h : Follows index d?) (he : e.key = whereKey) :
    Offends c d? e (strayWhere index) := by
  rcases h with ⟨rfl, rfl⟩ | ⟨w, hindex, rfl, hw⟩
  · exact .leading he
  · rw [strayWhere, if_neg hindex]
    exact .adjacent he hw

/-- When a list is turned down, one of its entries offends the one in front of it, and all entries
before that one follow the grammar. `d?` is what stands in front of the whole list. -/
theorem exists_offends_of_requestsFrom {d? : Option TraitEntry}
    (hd : ∀ e ∈ es.head?, e.key = whereKey → Follows index d?)
    (h : requestsFrom c index es = .error cause) :
    ∃ before e after, es = before ++ e :: after ∧ Grammatical c before ∧
      Offends c (before.getLast?.or d?) e cause := by
  fun_induction requestsFrom c index es generalizing d? with
  | case1 index => cases h
  | case2 index e he =>
    cases h
    exact ⟨[], e, [], rfl, grammatical_nil c, offends_strayWhere (hd e rfl he) he⟩
  | case3 index e he =>
    rw [map_eq_error_iff] at h
    exact ⟨[], e, [], rfl, grammatical_nil c, (request_eq_error_iff he _).mp h⟩
  | case4 index e next rest he =>
    cases h
    exact ⟨[], e, _, rfl, grammatical_nil c, offends_strayWhere (hd e rfl he) he⟩
  | case5 index e next rest he ihrest ihnext =>
    rcases bind_eq_error_iff.mp h with h | ⟨r, hr, h⟩
    · exact ⟨[], e, _, rfl, grammatical_nil c, (request_eq_error_iff he _).mp h⟩
    · obtain ⟨hdeclares, _⟩ := (request_eq_ok_iff he).mp hr
      by_cases hnext : next.key = whereKey
      · rw [if_pos hnext] at h
        rcases bind_eq_error_iff.mp h with h | ⟨s, hs, h⟩
        · obtain ⟨hblank, rfl⟩ := clause_eq_error_iff.mp h
          exact ⟨[e], next, rest, rfl,
            (grammatical_cons_iff he (by simp)).mpr ⟨hdeclares, grammatical_nil c⟩,
            .clause hnext he hblank⟩
        · obtain ⟨t, ht, hblank, _⟩ := clause_eq_ok_iff.mp hs
          rcases bind_eq_error_iff.mp h with h | ⟨_, _, ⟨⟩⟩
          have hfollows : ∀ x ∈ rest.head?, x.key = whereKey → Follows (index + 1) (some next) :=
            fun _ _ _ => Or.inr ⟨next, by omega, rfl, hnext⟩
          obtain ⟨before, x, after, rfl, hbefore, hx⟩ := ihrest hfollows h
          exact ⟨e :: next :: before, x, after, rfl,
            (grammatical_cons_cons_iff he hnext).mpr ⟨hdeclares, ⟨hnext, t, ht, hblank⟩, hbefore⟩,
            by simpa [List.getLast?_cons] using hx⟩
      · rw [if_neg hnext] at h
        rcases bind_eq_error_iff.mp h with h | ⟨_, _, ⟨⟩⟩
        have hfollows : ∀ x ∈ (next :: rest).head?, x.key = whereKey →
            Follows (index + 1) (some e) := by
          rintro _ ⟨⟩ hwhere
          exact absurd hwhere hnext
        obtain ⟨before, x, after, hes, hbefore, hx⟩ := ihnext hfollows h
        exact ⟨e :: before, x, after, by rw [hes, List.cons_append],
          (grammatical_cons_iff he hbefore.leading).mpr ⟨hdeclares, hbefore⟩,
          by simpa [List.getLast?_cons] using hx⟩

theorem Grammatical.not_offends {before after : List TraitEntry}
    (h : Grammatical c (before ++ e :: after)) : ¬ Offends c before.getLast? e cause := by
  intro ho
  have hentry := h.entries e (by simp)
  by_cases hkey : e.key = whereKey
  · have hclause := (hentry.resolve_left fun hd => hd.key_ne hkey).clause
    generalize hlast : before.getLast? = d? at ho
    cases ho with
    | leading =>
      rw [List.getLast?_eq_none_iff.mp hlast] at h
      exact h.leading e rfl hkey
    | adjacent _ hd =>
      exact (List.isChain_append.mp h.apart).2.2 _ hlast e rfl hd hkey
    | clause _ _ hblank =>
      obtain ⟨s, hs, hne⟩ := hclause
      exact hne (hblank s hs)
    | kind hne => exact hne hkey
    | operator hne => exact hne hkey
    | operands hne => exact hne hkey
  · have hdeclares := hentry.resolve_right fun hr => hkey hr.key_eq
    have hok : request c 0 e = .ok _ := (request_eq_ok_iff hkey).mpr ⟨hdeclares, rfl⟩
    rw [(request_eq_error_iff hkey _).mpr ho] at hok
    cases hok

theorem requests_eq_ok_iff {rs : List Request} : requests c es = .ok rs ↔
    Grammatical c es ∧ rs = requestList 0 es := requestsFrom_eq_ok_iff

theorem fst_mem_of_mem_withNext {place : TraitEntry × Option TraitEntry}
    (h : place ∈ withNext es) : place.1 ∈ es := by
  induction es with
  | nil => cases h
  | cons e es ih =>
    rcases List.mem_cons.mp h with rfl | h
    · exact List.mem_cons_self
    · exact List.mem_cons_of_mem e (ih h)

theorem exists_entry_of_mem_requestList {r : Request} (hr : r ∈ requestList index es) :
    ∃ e ∈ es, e.key ≠ whereKey ∧ r.kind = e.key ∧ r.operators = e.argument.operatorTexts := by
  obtain ⟨i, hi, rfl⟩ := List.mem_mapIdx.mp hr
  obtain ⟨hplace, hkey⟩ := List.mem_filter.mp (List.getElem_mem hi)
  exact ⟨_, fst_mem_of_mem_withNext hplace, of_decide_eq_true hkey, rfl, rfl⟩

/-- The operators of a request are those of an entry, which has some. -/
theorem exists_entry_of_mem_requests {rs : List Request} {r : Request}
    (h : requests c es = .ok rs) (hr : r ∈ rs) :
    ∃ e ∈ es, e.argument.IsOperators ∧ r.operators = e.argument.operatorTexts := by
  obtain ⟨hes, rfl⟩ := requests_eq_ok_iff.mp h
  obtain ⟨e, he, hkey, _, hops⟩ := exists_entry_of_mem_requestList hr
  have hdeclares := (hes.entries e he).resolve_right fun hw => hkey hw.key_eq
  exact ⟨e, he, hdeclares.operators, hops⟩

/-- The cause is that of the first entry that does not fit. -/
theorem requests_eq_error_iff : requests c es = .error cause ↔
    ∃ before e after, es = before ++ e :: after ∧ Grammatical c before ∧
      Offends c before.getLast? e cause := by
  have hmp : ∀ cause, requests c es = .error cause → ∃ before e after,
      es = before ++ e :: after ∧ Grammatical c before ∧ Offends c before.getLast? e cause := by
    intro cause h
    have hfirst : ∀ e ∈ es.head?, e.key = whereKey → Follows 0 none :=
      fun _ _ _ => Or.inl ⟨rfl, rfl⟩
    simpa using exists_offends_of_requestsFrom hfirst h
  refine ⟨hmp cause, ?_⟩
  rintro ⟨before, e, after, hes, hbefore, he⟩
  cases h : requests c es with
  | ok rs =>
    have hgrammatical := (requests_eq_ok_iff.mp h).1
    rw [hes] at hgrammatical
    exact absurd he hgrammatical.not_offends
  | error cause' =>
    obtain ⟨before', e', after', hes', hbefore', he'⟩ := hmp cause' h
    rcases List.append_eq_append_iff.mp (hes.symm.trans hes') with ⟨t, rfl, ht⟩ | ⟨t, rfl, ht⟩
    · cases t with
      | nil =>
        obtain ⟨rfl, rfl⟩ := List.cons.inj ht
        rw [List.append_nil] at he'
        rw [he.unique he']
      | cons x t =>
        obtain ⟨rfl, _⟩ := List.cons.inj ht
        exact absurd he hbefore'.not_offends
    · cases t with
      | nil =>
        obtain ⟨rfl, rfl⟩ := List.cons.inj ht
        rw [List.append_nil] at he
        rw [he.unique he']
      | cons x t =>
        obtain ⟨rfl, _⟩ := List.cons.inj ht
        exact absurd he' hbefore.not_offends

section
variable [Host]

/-- A cause shows nothing but a value of its entry or the arity of a kind. -/
theorem Offends.isWritable {d? : Option TraitEntry} (h : Offends c d? e cause)
    (he : e.argument.isWritable) (hc : c.IsWritable) : cause.isWritable := by
  cases h with
  | leading => rfl
  | adjacent => rfl
  | clause => exact he
  | kind => rfl
  | operator _ _ hbad => exact hbad.isWritable he
  | operands _ hentry _ =>
    have harity := Scalar.obstacle?_int_eq_none_iff.mpr (hc _ (Catalog.mem_of_find? hentry).1)
    have hzero := Scalar.obstacle?_int_eq_none_iff.mpr Numeral.isWritable_zero
    rw [Cause.isWritable_iff, Cause.obstacle?, harity, hzero]
    rfl

theorem isWritable_of_requests (h : requests c es = .error cause)
    (hes : ∀ e ∈ es, e.argument.isWritable) (hc : c.IsWritable) : cause.isWritable := by
  obtain ⟨before, e, after, rfl, _, he⟩ := requests_eq_error_iff.mp h
  exact he.isWritable (hes e (by simp)) hc

/-- Entries are read exactly when they follow the grammar. What is read is one request for each
entry that is no clause, and what is turned down has the cause of the first entry that does not fit.
The cause is reported as it is if all that its message may show can be written, and otherwise what
keeps the message from being written is raised. -/
theorem requests_follow_grammar (c : Catalog) (es : List TraitEntry) :
    ((∃ rs, requests c es = .ok rs) ↔ Grammatical c es) ∧
    (∀ rs, requests c es = .ok rs → rs = requestList 0 es) ∧
    (∀ cause, requests c es = .error cause ↔ ∃ before e after,
      es = before ++ e :: after ∧ Grammatical c before ∧ Offends c before.getLast? e cause) ∧
    ((∀ e ∈ es, e.argument.isWritable) → c.IsWritable → ∀ failure,
      (liftM (requests c es) : Except Failure (List Request)) = .error failure ↔
        ∃ cause, requests c es = .error cause ∧ failure = .cause cause) ∧
    (∀ fault, (liftM (requests c es) : Except Failure (List Request)) = .error (.fault fault) ↔
      ∃ cause, requests c es = .error cause ∧ cause.obstacle? = some fault) := by
  refine ⟨?_, fun rs h => (requests_eq_ok_iff.mp h).2, fun cause => requests_eq_error_iff, ?_,
    fun fault => liftM_cause_eq_fault_iff⟩
  · constructor
    · rintro ⟨rs, h⟩
      exact (requests_eq_ok_iff.mp h).1
    · intro h
      exact ⟨_, requests_eq_ok_iff.mpr ⟨h, rfl⟩⟩
  · intro hes hc failure
    constructor
    · intro h
      obtain ⟨cause, hcause, rfl⟩ := mapError_eq_error_iff.mp h
      refine ⟨cause, hcause, ?_⟩
      rw [Failure.ofCause_of_isWritable (isWritable_of_requests hcause hes hc)]
    · rintro ⟨cause, hcause, rfl⟩
      refine mapError_eq_error_iff.mpr ⟨cause, hcause, ?_⟩
      rw [Failure.ofCause_of_isWritable (isWritable_of_requests hcause hes hc)]

end

attribute [local instance] Host.terminal

theorem requests_two_clauses :
    let es : List TraitEntry := [⟨"Group", .text " ops::Additive "⟩, ⟨"Where", .text "T: Copy"⟩,
      ⟨"Where", .int 3⟩, ⟨"Gruop", .null⟩]
    (∀ e ∈ es, e.argument.isWritable) ∧ Catalog.standard.IsWritable ∧
      (liftM (requests Catalog.standard es) : Except Failure (List Request)) =
        .error (.cause .adjacentWhere) := by
  intro es
  have hes : ∀ e ∈ es, e.argument.isWritable := by decide +kernel
  have hc : Catalog.standard.IsWritable := by decide +kernel
  obtain ⟨_, _, _, hreported, _⟩ := requests_follow_grammar Catalog.standard es
  exact ⟨hes, hc, (hreported hes hc _).mpr ⟨_, rfl, rfl⟩⟩

theorem requests_integer (n : Int) : requests Catalog.standard [⟨"Group", .list [.int n]⟩] =
    .error (.malformedOperator "Group" (.int n)) := rfl

/-- An integer of more than 4300 digits is turned down as an operator, but the report cannot be
written, and what is raised in its place is no cause. -/
theorem long_operator_is_fault :
    let es : List TraitEntry := [⟨"Group", .list [.int Numeral.unwritable]⟩]
    requests Catalog.standard es = .error (.malformedOperator "Group" (.int Numeral.unwritable)) ∧
      (liftM (requests Catalog.standard es) : Except Failure (List Request)) =
        .error (.fault .tooManyDigits) := by
  intro es
  have hcause := requests_integer Numeral.unwritable
  exact ⟨hcause, liftM_cause_eq_fault_iff.mpr ⟨_, hcause, Scalar.obstacle?_unwritable⟩⟩

end StructureDerive.TraitEntry
