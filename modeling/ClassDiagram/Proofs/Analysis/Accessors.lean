import ClassDiagram.Proofs.Analysis.ClassMembers
import ClassDiagram.Proofs.Analysis.Findings

/-!
Accessors among the functions of a class. A function is an accessor of the property of its own name
in one of five forms of decorators (`Scope.IsOwnAccessor`). Four of them keep it out of the methods;
the getter of its own name does not, so a function with that form alone is a method
(`Scope.isMethod_iff`). From this come the methods on both sides of an accessor and the names of all
methods of a class (`ModuleAnalysis.accessors_kept_apart`).
-/

namespace ClassDiagram

open Source (Expr FunctionHead Stmt)

namespace Scope

variable {s : Scope} {f : FunctionHead}

/-! ## Forms -/

/-- The function is an accessor of the property of its own name: a getter, or decorated by an
accessor of that name. -/
def IsOwnAccessor (f : FunctionHead) : Prop :=
  IsGetter f ∨ ∃ id, IsAccessor id ∧ DecoratedBy f [f.name, id]

/-- Of all forms of accessors, the function has the getter of its own name alone. -/
def IsRegetter (f : FunctionHead) : Prop :=
  DecoratedBy f [f.name, "getter"] ∧ ¬ IsGetter f ∧ ¬ DecoratedBy f [f.name, "setter"] ∧
    ¬ DecoratedBy f [f.name, "deleter"]

instance (f : FunctionHead) : Decidable (IsRegetter f) :=
  inferInstanceAs (Decidable (DecoratedBy f [f.name, "getter"] ∧ ¬ IsGetter f ∧
    ¬ DecoratedBy f [f.name, "setter"] ∧ ¬ DecoratedBy f [f.name, "deleter"]))

theorem isOwnAccessor_iff : IsOwnAccessor f ↔
    IsGetter f ∨ DecoratedBy f [f.name, "setter"] ∨ DecoratedBy f [f.name, "getter"] ∨
      DecoratedBy f [f.name, "deleter"] := by
  simp [IsOwnAccessor, IsAccessor, or_and_right, exists_or]

/-- A function is a method if it is no accessor, or an accessor in the one form that does not
count. -/
theorem isMethod_iff : IsMethod f ↔ ¬ IsOwnAccessor f ∨ IsRegetter f := by
  rw [isOwnAccessor_iff, IsMethod, IsRegetter]
  tauto

theorem IsOwnAccessor.isMethod_iff (h : IsOwnAccessor f) : IsMethod f ↔ IsRegetter f := by
  rw [Scope.isMethod_iff]
  exact or_iff_right (not_not_intro h)

/-! ## Methods by their places -/

/-- Between the methods of the statements before a place and those of the statements behind it, a
class has these. -/
def MethodsAt (s : Scope) (before after : List Stmt) (own : List (Method String)) (c : Class) :
    Prop :=
  ∃ early late, c.methods = early ++ own ++ late ∧
    before.filterMap (s.methodOf? c.name) = early.map .ok ∧
    after.filterMap (s.methodOf? c.name) = late.map .ok

theorem HasMembers.methodsAt {before after : List Stmt} {stmt : Stmt} {c : Class}
    (h : s.HasMembers (before ++ stmt :: after) c) :
    ∃ own, s.MethodsAt before after own c ∧ (s.methodOf? c.name stmt).toList = own.map .ok := by
  have hmethods := h.methods
  rw [List.append_cons, List.filterMap_append, List.filterMap_append] at hmethods
  obtain ⟨front, late, hsplit, hfront, hlate⟩ := List.map_eq_append_iff.mp hmethods.symm
  obtain ⟨early, own, rfl, hearly, hown⟩ := List.map_eq_append_iff.mp hfront
  refine ⟨own, ⟨early, late, hsplit, hearly.symm, hlate.symm⟩, ?_⟩
  rw [hown]
  cases hmethod : s.methodOf? c.name stmt <;> simp [hmethod]

theorem methodOf?_functionDef (s : Scope) (parent : String) (f : FunctionHead) (inner : List Stmt) :
    s.methodOf? parent (.functionDef f inner) =
      if IsMethod f then some (s.method parent true f) else none := rfl

/-- The names of the methods are those of the functions that are no accessors. -/
theorem HasMembers.exists_method_iff {body : List Stmt} {c : Class} (h : s.HasMembers body c)
    (n : String) : (∃ m ∈ c.methods, m.header.name = n) ↔
      ∃ f inner, .functionDef f inner ∈ body ∧ f.name = n ∧ IsMethod f := by
  constructor
  · rintro ⟨m, hm, rfl⟩
    have hmem : .ok m ∈ body.filterMap (s.methodOf? c.name) :=
      h.methods ▸ List.mem_map_of_mem hm
    obtain ⟨stmt, hstmt, hmethod⟩ := List.mem_filterMap.mp hmem
    cases stmt with
    | functionDef f inner =>
      rw [methodOf?_functionDef] at hmethod
      split at hmethod
      · rename_i hrole
        exact ⟨f, inner, hstmt, (name_of_method (Option.some.inj hmethod)).symm, hrole⟩
      · cases hmethod
    | _ => cases hmethod
  · rintro ⟨f, inner, hstmt, rfl, hrole⟩
    have hmem : s.method c.name true f ∈ body.filterMap (s.methodOf? c.name) :=
      List.mem_filterMap.mpr ⟨_, hstmt, by rw [methodOf?_functionDef, if_pos hrole]⟩
    rw [h.methods] at hmem
    obtain ⟨m, hm, hmethod⟩ := List.mem_map.mp hmem
    exact ⟨m, hm, name_of_method hmethod.symm⟩

/-- An accessor adds no method, except in the form that does not count. -/
theorem HasMembers.methodsAt_accessor {before after inner : List Stmt} {c : Class}
    (h : s.HasMembers (before ++ .functionDef f inner :: after) c) (haccessor : IsOwnAccessor f) :
    if IsRegetter f then ∃ m, s.MethodsAt before after [m] c ∧ m.header.name = f.name
    else s.MethodsAt before after [] c := by
  obtain ⟨own, hplace, hown⟩ := h.methodsAt
  simp only [methodOf?_functionDef, haccessor.isMethod_iff] at hown
  split
  · rename_i hregetter
    rw [if_pos hregetter] at hown
    obtain ⟨m, rfl, hmethod⟩ := List.map_eq_singleton_iff.mp hown.symm
    exact ⟨m, hplace, name_of_method hmethod.symm⟩
  · rename_i hregetter
    rw [if_neg hregetter] at hown
    rwa [List.map_eq_nil_iff.mp hown.symm] at hplace

/-- The methods of a class, and what its accessors add to them. -/
structure AccessorsApart (s : Scope) (body : List Stmt) (c : Class) : Prop where
  accessor : ∀ before f inner after, body = before ++ .functionDef f inner :: after →
    IsOwnAccessor f →
      if IsRegetter f then ∃ m, s.MethodsAt before after [m] c ∧ m.header.name = f.name
      else s.MethodsAt before after [] c
  names : ∀ n, (∃ m ∈ c.methods, m.header.name = n) ↔
    ∃ f inner, .functionDef f inner ∈ body ∧ f.name = n ∧ (¬ IsOwnAccessor f ∨ IsRegetter f)

theorem HasMembers.accessorsApart {body : List Stmt} {c : Class} (h : s.HasMembers body c) :
    s.AccessorsApart body c where
  accessor before f inner after hbody haccessor := by
    subst hbody
    exact h.methodsAt_accessor haccessor
  names n := by
    simp only [← isMethod_iff]
    exact h.exists_method_iff n

end Scope

namespace ModuleAnalysis

open Scope (DecoratedBy IsAccessor IsOwnAccessor IsRegetter)

/-- **Accessors are kept apart from the methods of a class, but for one form.** If no string in an
annotation has a fault, the class is analysed. An accessor of its own name adds no method to those
of the statements before it and behind it; if the getter of its own name is its only form, it adds
one, of that name. So a name is that of a method just if a function of the name is no accessor, or
is one in that form alone. -/
theorem accessors_kept_apart {s : Scope} {name : String} {bases : List Expr} {body : List Stmt}
    (hplain : ∀ stmt ∈ body, Scope.PlainlyDecorated stmt)
    (h : ∀ value, (∃ e ∈ body.flatMap Scope.memberHints, s.Reads e value) →
      0 ∉ value ∧ ∀ c ∈ value, Annotation.isSurrogate c = false) :
    ∃ c, (newClass s name bases body).result = .ok c ∧
      (∀ before f inner after, body = before ++ .functionDef f inner :: after → IsOwnAccessor f →
        if IsRegetter f then ∃ m, s.MethodsAt before after [m] c ∧ m.header.name = f.name
        else s.MethodsAt before after [] c) ∧
      ∀ n, (∃ m ∈ c.methods, m.header.name = n) ↔
        ∃ f inner, .functionDef f inner ∈ body ∧ f.name = n ∧
          (¬ IsOwnAccessor f ∨ IsRegetter f) := by
  obtain ⟨c, hc⟩ : Succeeds (newClass s name bases body).result := by
    refine succeeds_newClass.mpr fun e he value hvalue => ?_
    exact Annotation.fault?_eq_none_iff.mpr (h value ⟨e, he, hvalue⟩)
  have hapart := (hasMembers_newClass hplain hc).accessorsApart
  exact ⟨c, hc, hapart.accessor, hapart.names⟩

/-- A function without parameters and annotations, with these decorators. -/
def decorated (name : String) (decorators : List Expr) : Stmt :=
  .functionDef { name, parameters := {}, returns := none, decorators } []

/-- A class with three accessors of one name, one of them called, and a method. -/
def oven : List Stmt := [
  decorated "heat" [.member (.name "functools") "cached_property"],
  decorated "heat" [.name "logged", .call (.member (.name "heat") "setter")],
  decorated "bake" [.member (.name "heat") "setter"],
  decorated "heat" [.member (.member (.name "oven") "heat") "deleter"]]

/-- A class with a property that is given a second getter. -/
def reheated : List Stmt := [
  decorated "heat" [.name "property"],
  decorated "heat" [.member (.name "heat") "getter"]]

theorem oven_plain : ∀ stmt ∈ oven, Scope.PlainlyDecorated stmt := by
  rintro stmt (_ | ⟨_, _ | ⟨_, _ | ⟨_, _ | ⟨_, ⟨⟩⟩⟩⟩⟩) d hd
  · rw [List.mem_singleton.mp hd]
    exact .member (.name (by decide)) (by decide)
  · rcases List.mem_pair.mp hd with rfl | rfl
    · exact .name (by decide)
    · exact .call (.member (.name (by decide)) (by decide))
  · rw [List.mem_singleton.mp hd]
    exact .member (.name (by decide)) (by decide)
  · rw [List.mem_singleton.mp hd]
    exact .member (.member (.name (by decide)) (by decide)) (by decide)

theorem accessors_kept_apart_oven :
    (∀ stmt ∈ oven, Scope.PlainlyDecorated stmt) ∧ oven.flatMap Scope.memberHints = [] ∧
    ∃ c, (newClass { moduleName := "kitchen" } "Oven" [] oven).result = .ok c ∧
      (∃ m ∈ c.methods, m.header.name = "bake") ∧ ∀ m ∈ c.methods, m.header.name ≠ "heat" := by
  have hhints : oven.flatMap Scope.memberHints = [] := by decide
  have hlegible : ∀ value, (∃ e ∈ oven.flatMap Scope.memberHints,
      Scope.Reads { moduleName := "kitchen" } e value) →
        0 ∉ value ∧ ∀ c ∈ value, Annotation.isSurrogate c = false := by
    rintro value ⟨e, he, -⟩
    rw [hhints] at he
    cases he
  obtain ⟨c, hc, -, hnames⟩ := @accessors_kept_apart _ "Oven" [] oven oven_plain hlegible
  refine ⟨oven_plain, hhints, c, hc, (hnames "bake").mpr ?bake, fun m hm hname => ?heat⟩
  case bake =>
    refine ⟨_, [], List.mem_cons_of_mem _ (List.mem_cons_of_mem _ List.mem_cons_self), rfl, ?_⟩
    exact .inl (mt Scope.isOwnAccessor_iff.mp (by decide))
  case heat =>
    obtain ⟨f, inner, hf, hname, hrole⟩ := (hnames "heat").mp ⟨m, hm, hname⟩
    have hmethod : Scope.IsMethod f := Scope.isMethod_iff.mpr hrole
    rcases hf with _ | ⟨_, _ | ⟨_, _ | ⟨_, _ | ⟨_, ⟨⟩⟩⟩⟩⟩
    · exact absurd hmethod (by decide)
    · exact absurd hmethod (by decide)
    · exact absurd hname (by decide)
    · exact absurd hmethod (by decide)

/-- A property whose second getter is a method of its name. -/
theorem getter_listed_twice :
    (∀ f inner, .functionDef f inner ∈ reheated → IsOwnAccessor f) ∧
    ∃ c, (newClass { moduleName := "kitchen" } "Oven" [] reheated).result = .ok c ∧
      (∃ p ∈ c.properties, p.name = "heat" ∧ p.hasGetter = true) ∧
      ∃ m ∈ c.methods, m.header.name = "heat" := by
  have hplain : ∀ stmt ∈ reheated, Scope.PlainlyDecorated stmt := by
    rintro stmt (_ | ⟨_, _ | ⟨_, ⟨⟩⟩⟩) d hd
    · rw [List.mem_singleton.mp hd]
      exact .name (by decide)
    · rw [List.mem_singleton.mp hd]
      exact .member (.name (by decide)) (by decide)
  obtain ⟨c, hc⟩ : Succeeds (newClass { moduleName := "kitchen" } "Oven" [] reheated).result := by
    have hhints : reheated.flatMap Scope.memberHints = [] := by decide
    refine succeeds_newClass.mpr fun e he => ?_
    rw [hhints] at he
    cases he
  have hmembers := hasMembers_newClass hplain hc
  refine ⟨?accessors, c, hc, ?property, ?method⟩
  case accessors =>
    rintro f inner (_ | ⟨_, _ | ⟨_, ⟨⟩⟩⟩)
    · exact Scope.isOwnAccessor_iff.mpr (by decide)
    · exact Scope.isOwnAccessor_iff.mpr (by decide)
  case property =>
    obtain ⟨p, ⟨hp, hname⟩, -⟩ := (hmembers.contributed "heat").mpr
      ⟨_, List.mem_cons_self, _, .getter [] (by decide), rfl⟩
    refine ⟨p, hp, hname, (hmembers.getter p hp).mpr ⟨_, [], List.mem_cons_self, ?_, by decide⟩⟩
    exact hname.symm
  case method =>
    have hmem := List.mem_cons_of_mem (decorated "heat" [.name "property"])
      (List.mem_singleton_self (decorated "heat" [.member (.name "heat") "getter"]))
    exact (hmembers.exists_method_iff "heat").mpr ⟨_, [], hmem, rfl, by decide⟩

end ModuleAnalysis

end ClassDiagram
