import StructureDerive.Host.Terminal
import StructureDerive.Proofs.TestMatrix
import StructureDerive.Proofs.TypeArguments

/-! # The types that tests mention

A target with a parameter that takes a type has at least one instantiation, so every row of its
matrix is concrete. A target without such a parameter has one row without types, in which it stands
with its own parameters: a lifetime of the target is left in its tests.
-/
namespace StructureDerive
open Outcome

namespace Generics
variable {ps : List Parameter} {types arguments : List String}

theorem filled_nil_iff (hps : ∀ p ∈ ps, p.kind = .lifetime) :
    Filled ps [] arguments ↔ arguments = ps.map fun _ => "'static" := by
  constructor
  · intro h
    induction ps generalizing arguments with
    | nil =>
      cases h
      rfl
    | cons p ps ih =>
      obtain ⟨_, hps⟩ := List.forall_mem_cons.mp hps
      cases h with
      | lifetime _ hrest => rw [ih hps hrest, List.map_cons]
  · rintro rfl
    induction ps with
    | nil => exact .nil
    | cons p ps ih =>
      obtain ⟨hp, hps⟩ := List.forall_mem_cons.mp hps
      exact .lifetime hp (ih hps)

end Generics

namespace Target
variable {t : Target}

/-- Without a parameter that takes a type, a target is concrete if its lifetimes are. -/
theorem isConcrete_type_iff (h : t.generics.instantiable = []) :
    t.IsConcrete [] t.type ↔ ∀ p ∈ t.generics.parameters, p.name = "'static" := by
  have hlifetimes : ∀ p ∈ t.generics.parameters, p.kind = .lifetime := by
    intro p hp
    simpa [Parameter.isInstantiable] using List.filter_eq_nil_iff.mp h p hp
  have hconcrete : t.IsConcrete [] t.type ↔ t.generics.bracketed (t.generics.parameters.map
      (·.name)) = t.generics.bracketed (t.generics.parameters.map fun _ => "'static") := by
    simp only [IsConcrete, Generics.filled_nil_iff hlifetimes, exists_eq_left, type,
      Generics.named, String.append_right_inj]
  rw [hconcrete]
  constructor
  · intro hsame p hp
    have hne : t.generics.parameters ≠ [] := List.ne_nil_of_mem hp
    have hjoin : commaList (t.generics.parameters.map (·.name)) =
        commaList (t.generics.parameters.map fun _ => "'static") := by
      simpa [Generics.bracketed, hne, toString, String.append_left_inj] using hsame
    have hcomma : ∀ q ∈ (t.generics.parameters.map fun _ => "'static").map String.toList,
        ',' ∉ q := by
      rw [List.forall_mem_map, List.forall_mem_map]
      exact fun _ _ => by decide
    have htexts := congrArg String.toList hjoin
    rw [toList_commaList, toList_commaList] at htexts
    have hlists := Text.eq_of_intercalate_eq (by simp) hcomma htexts
    rw [List.map_map, List.map_map, List.map_inj_left] at hlists
    exact String.toList_inj.mp (hlists p hp)
  · intro hnames
    rw [List.map_congr_left hnames]

end Target

namespace LawTest

/-- All arguments of a test are of one type, on which its law is called. -/
structure IsAbout (t : LawTest) (type : String) : Prop where
  parameters : ∀ s ∈ t.parameters, s = type
  invocation : t.invocation = s!"<{type} as _alga::general::" ++
    s!"Abstract{t.kind}<{commaList t.operators}>>" ++ s!"::{t.law}(args)"

end LawTest

namespace Declaration
variable {c : Catalog} {d : Declaration} {options : Options} {withTests : Bool}
variable {result : Derivation} {t : LawTest}

/-- A row of the matrix has the types for all parameters that take one, if there are any. -/
theorem row_of_instantiationsFor {rows : List (List String)} {row : Option (List String)}
    (h : d.instantiationsFor = .ok rows) (hrow : row ∈ TestPlan.rows rows) :
    (row = none ∧ d.target.generics.instantiable = []) ∨
      ∃ types, row = some types ∧ types.length = d.target.generics.instantiable.length ∧
        d.target.generics.instantiable ≠ [] := by
  obtain ⟨hparse, hmissing⟩ := instantiationsFor_eq_ok h
  unfold TestPlan.rows at hrow
  split at hrow
  · rename_i hnone
    exact Or.inl ⟨List.mem_singleton.mp hrow, hmissing (List.isEmpty_iff.mp hnone)⟩
  · obtain ⟨types, htypes, rfl⟩ := List.mem_map.mp hrow
    obtain ⟨given, hgiven⟩ := Instantiation.exists_ofValue_of_parse hparse htypes
    refine Or.inr ⟨types, rfl, Instantiation.length_of_ofValue hgiven, fun hnil => ?_⟩
    exact Instantiation.ne_zero_of_ofValue hgiven (by rw [hnil]; rfl)

theorem isAbout_of_isTestAt {plan : TestPlan} {x : Cell} (hx : plan.IsTestAt x t)
    (he : c.find? x.obligation.kind = some x.entry) :
    ∃ type, plan.target.typeWith x.row = .ok type ∧ t.IsAbout type := by
  obtain ⟨type, htype, hparameters, hcall⟩ := hx.calls
  refine ⟨type, htype, fun s hs => ?_, ?_⟩
  · rw [hparameters] at hs
    exact List.eq_of_mem_replicate hs
  · rw [hcall, hx.kind, hx.operators, hx.law, Entry.traitName, (Catalog.mem_of_find? he).2]
    simp [toString, String.append_assoc]

/-- Every test of a target mentions one type. The type is concrete, with the types of the test's
row and `'static` for the lifetimes, unless the target has lifetimes only: then it is written with
its own lifetimes, and is concrete only if these are static. -/
theorem tests_concrete_iff [Host] (h : d.derive c options withTests = .ok result)
    (ht : t ∈ result.tests) :
    ∃ type, t.IsAbout type ∧
      (d.target.IsConcrete t.types type ↔ d.target.generics.instantiable ≠ [] ∨
        ∀ p ∈ d.target.generics.parameters, p.name = "'static") ∧
      (d.target.generics.instantiable = [] → t.types = [] ∧ type = d.target.type) := by
  obtain ⟨plan, rows, x, hplan, hrows, hx, htest⟩ := exists_cell_of_derive h ht
  obtain ⟨_, he, _, hrow⟩ := Cell.mem_all_iff.mp hx
  obtain ⟨type, htype, habout⟩ := isAbout_of_isTestAt htest he
  rw [testPlan_target hplan] at htype
  refine ⟨type, habout, ?_⟩
  rcases row_of_instantiationsFor hrows hrow with ⟨hnone, hnil⟩ | ⟨types, hsome, hlen, hne⟩
  · have htypes : t.types = [] := by rw [htest.types, Cell.types, hnone, Option.getD_none]
    rw [hnone] at htype
    obtain rfl : d.target.type = type := Except.ok.inj htype
    refine ⟨?_, fun _ => ⟨htypes, rfl⟩⟩
    rw [htypes, Target.isConcrete_type_iff hnil]
    exact ⟨Or.inr, fun hor => hor.resolve_left (fun hne => hne hnil)⟩
  · have htypes : t.types = types := by rw [htest.types, Cell.types, hsome, Option.getD_some]
    rw [hsome] at htype
    refine ⟨?_, fun hnil => absurd hnil hne⟩
    rw [htypes]
    exact iff_of_true ((Target.typeWith_eq_ok_iff hlen).mp htype) (Or.inl hne)

attribute [local instance] Host.terminal

/-- Lifetimes are static as soon as there is an instantiation. -/
theorem tests_concrete_for_buffer :
    let d : Declaration :=
      { tested := true, entries := [⟨"Semigroup", .text "Additive"⟩]
        instantiations := [.list [.text "u8", .text "4"]]
        target := { name := "Buffer", generics :=
          ⟨[⟨.lifetime, "'a", none⟩, ⟨.type, "T", none⟩, ⟨.const, "N", some "usize"⟩]⟩ } }
    ∃ result, d.derive .standard {} true = .ok result ∧ ∃ t ∈ result.tests,
      t.types = ["u8", "4"] ∧ "Buffer<'static, u8, 4>" ∈ t.parameters ∧
        ∃ type, t.IsAbout type ∧ d.target.IsConcrete t.types type := by
  intro d
  have hany : ((d.derive .standard {} true).toOption.any fun result => result.tests.any fun t =>
      t.types = ["u8", "4"] ∧ "Buffer<'static, u8, 4>" ∈ t.parameters) = true := by decide +kernel
  obtain ⟨result, hresult, htests⟩ := exists_ok_of_any hany
  obtain ⟨t, ht, htest⟩ := List.any_eq_true.mp htests
  obtain ⟨htypes, hparameter⟩ := of_decide_eq_true htest
  obtain ⟨type, habout, hconcrete, _⟩ := tests_concrete_iff hresult ht
  exact ⟨result, hresult, t, ht, htypes, hparameter, type, habout, hconcrete.mpr (Or.inl nofun)⟩

/-- A target with nothing but a lifetime keeps it in its tests. -/
theorem lifetime_left_in_test :
    let d : Declaration :=
      { tested := true, entries := [⟨"Semigroup", .text "Additive"⟩]
        target := { name := "Slice", generics := ⟨[⟨.lifetime, "'a", none⟩]⟩ } }
    ∃ result, d.derive .standard {} true = .ok result ∧ ∃ t ∈ result.tests,
      "Slice<'a>" ∈ t.parameters ∧ d.target.typeWith (some t.types) = .ok "Slice<'static>" ∧
        ¬ d.target.IsConcrete t.types "Slice<'a>" := by
  intro d
  have hany : ((d.derive .standard {} true).toOption.any fun result => result.tests.any fun t =>
      t.types = [] ∧ "Slice<'a>" ∈ t.parameters) = true := by decide +kernel
  obtain ⟨result, hresult, htests⟩ := exists_ok_of_any hany
  obtain ⟨t, ht, htest⟩ := List.any_eq_true.mp htests
  obtain ⟨htypes, hparameter⟩ := of_decide_eq_true htest
  refine ⟨result, hresult, t, ht, hparameter, ?_, ?_⟩
  · rw [htypes]
    rfl
  · rw [htypes]
    intro hconcrete
    have hnames := (Target.isConcrete_type_iff (t := d.target) rfl).mp hconcrete
    exact absurd (hnames _ List.mem_cons_self) (by decide)

end Declaration
end StructureDerive
