import ClassDiagram.Proofs.Analysis.ClassMembers

/-!
Receivers. The first parameter that has a place takes the receiver of a method, and the second one
what a setter sets, those before a slash counting too. Methods leave out the first of all
parameters that are no variadic ones, which is the receiver just if there is one
(`Scope.HasArguments`); setters count the places behind the slash. So the members that functions
contribute have the types that these places say (`Scope.functions_in_class`), and the methods of a
class have them one by one (`ModuleAnalysis.methods_have_arguments`).
-/

namespace ClassDiagram

open Source (Expr FunctionHead Parameter Parameters Stmt)

namespace Source.Parameters

/-- The parameters that have a place in a call, in this order. -/
def placed (ps : Parameters) : List Parameter := ps.positionalOnly ++ ps.positional

/-- The parameters that are no variadic ones, without the receiver. -/
def behindReceiver (ps : Parameters) : List Parameter := ps.placed.tail ++ ps.keywordOnly

/-- The places behind the slash are counted from there. -/
theorem positional_eq_placed (ps : Parameters) (place : Nat) :
    ps.positional[place]? = ps.placed[ps.positionalOnly.length + place]? := by
  rw [placed, List.getElem?_append_right (Nat.le_add_right _ _), Nat.add_sub_cancel_left]

end Source.Parameters

namespace Scope

variable {s : Scope} {parent : String} {f : FunctionHead}

/-- The type that the annotation of a parameter refers to, if it refers to one of a project. -/
def parameterType? (s : Scope) (p : Parameter) : Option QualifiedName :=
  (s.resolve? p.hint).toOption.join

/-- The types of these parameters, in their order, as far as they have any. -/
def parameterTypes (s : Scope) (ps : List Parameter) : List QualifiedName :=
  ps.filterMap s.parameterType?

theorem parameterType?_eq {p : Parameter} {type : Option QualifiedName}
    (h : s.resolve? p.hint = .ok type) : s.parameterType? p = type := by
  rw [parameterType?, h]
  rfl

theorem parameterType?_name (s : Scope) (name id : String) :
    s.parameterType? ⟨name, some (.name id)⟩ = s.resolveChain [id] := by
  have hresolve : s.resolve (.name id) = .ok (s.resolveChain [id]) :=
    s.resolve_of_chain (List.cons_ne_nil id [])
  exact parameterType?_eq hresolve

theorem types_of_resolveParameters {ps : List Parameter} {types : List QualifiedName}
    (h : s.resolveParameters ps = .ok types) : types = s.parameterTypes ps := by
  induction ps generalizing types with
  | nil =>
    cases h
    rfl
  | cons p ps ih =>
    obtain ⟨type, htype, h⟩ := except_bind_eq_ok.mp h
    obtain ⟨more, hmore, h⟩ := except_bind_eq_ok.mp h
    cases h
    rw [ih hmore, parameterTypes, parameterTypes, List.filterMap_cons, parameterType?_eq htype]
    cases type <;> rfl

/-! ## Methods -/

/-- The argument types of the method that a function of a class is. -/
structure HasArguments (s : Scope) (f : FunctionHead) (m : Method String) : Prop where
  name : m.header.name = f.name
  /-- A static function takes no receiver. -/
  static : DecoratedBy f ["staticmethod"] →
    m.argumentTypes = s.parameterTypes (f.parameters.placed ++ f.parameters.keywordOnly)
  bound : ¬ DecoratedBy f ["staticmethod"] → f.parameters.placed ≠ [] →
    m.argumentTypes = s.parameterTypes f.parameters.behindReceiver
  /-- Without a place for the receiver, the first keyword is taken for it. -/
  unplaced : ¬ DecoratedBy f ["staticmethod"] → f.parameters.placed = [] →
    m.argumentTypes = s.parameterTypes f.parameters.keywordOnly.tail

theorem staticmethod_mem_iff :
    "staticmethod" ∈ decoratorNames f ↔ DecoratedBy f ["staticmethod"] :=
  mem_decoratorNames_iff (by decide) (by decide) (by decide)

theorem ownParameters_static (h : DecoratedBy f ["staticmethod"]) :
    ownParameters true f = f.parameters.placed ++ f.parameters.keywordOnly :=
  if_neg fun hown => hown.2 (staticmethod_mem_iff.mpr h)

/-- The first parameter is left out, whatever its kind. -/
theorem ownParameters_bound (h : ¬ DecoratedBy f ["staticmethod"]) :
    ownParameters true f = (f.parameters.placed ++ f.parameters.keywordOnly).tail := by
  rw [ownParameters, if_pos ⟨rfl, mt staticmethod_mem_iff.mp h⟩, List.drop_one]
  rfl

theorem arguments_of_method {m : Method String} (h : s.method parent true f = .ok m) :
    s.HasArguments f m := by
  obtain ⟨returnType, -, h⟩ := except_bind_eq_ok.mp h
  obtain ⟨types, htypes, h⟩ := except_bind_eq_ok.mp h
  have htypes : types = s.parameterTypes (ownParameters true f) := types_of_resolveParameters htypes
  cases h
  exact {
    name := rfl
    static := fun hstatic => by rw [htypes, ownParameters_static hstatic]
    bound := fun hbound hplaced => by
      rw [htypes, ownParameters_bound hbound, List.tail_append_of_ne_nil hplaced]
      rfl
    unplaced := fun hbound hplaced => by
      rw [htypes, ownParameters_bound hbound, hplaced, List.nil_append] }

/-- The function of a statement, if it is a method. -/
def methodHead? : Stmt → Option FunctionHead
  | .functionDef f _ => if role f = .method then some f else none
  | _ => none

theorem methodByRole?_eq (stmt : Stmt) :
    s.methodByRole? parent stmt = (methodHead? stmt).map (s.method parent true) := by
  cases stmt with
  | functionDef f body =>
    rw [methodByRole?, methodHead?]
    split <;> rfl
  | _ => rfl

/-! ## Functions in a class -/

theorem method_of_contributions {body : List Stmt} {new : List Contribution}
    (hrole : role f = .method) (h : s.contributions parent (.functionDef f body) = .ok new) :
    ∃ (m : Method String) (attributes : List (Property String)),
      new = .method m :: attributes.map .property ∧ s.HasArguments f m := by
  rw [contributions, functionContributions, hrole] at h
  obtain ⟨m, hm, h⟩ := except_bind_eq_ok.mp h
  obtain ⟨attributes, -, h⟩ := except_bind_eq_ok.mp h
  cases h
  exact ⟨m, attributes, rfl, arguments_of_method hm⟩

theorem property_of_contributions {body : List Stmt} {new : List Contribution}
    (hrole : role f = .setter) (h : s.contributions parent (.functionDef f body) = .ok new) :
    ∃ p, new = [.property p] ∧ p.name = f.name ∧ p.hasSetter = true ∧
      p.type = f.parameters.positional[1]?.bind s.parameterType? := by
  rw [contributions, functionContributions, hrole] at h
  obtain ⟨type, htype, h⟩ := except_bind_eq_ok.mp h
  cases h
  refine ⟨_, rfl, rfl, rfl, ?_⟩
  cases hvalue : f.parameters.positional[1]? with
  | none =>
    rw [hvalue] at htype
    cases htype
    rfl
  | some p =>
    rw [hvalue] at htype
    exact (parameterType?_eq htype).symm

/-- **The types of the parameters of a function in a class.** If no string in its annotations has a
fault, the function contributes a method, with the types of all parameters that are no variadic ones
but the receiver, or, if it sets a property, one of the type of the second place behind the slash,
which is the second of all where no slash is. Where no parameter has a place for the receiver, the
first keyword is left out. -/
theorem functions_in_class (s : Scope) (parent : String) (f : FunctionHead) (body : List Stmt)
    (h : ∀ value, (∃ e ∈ memberHints (.functionDef f body), s.Reads e value) →
      0 ∉ value ∧ ∀ c ∈ value, Annotation.isSurrogate c = false) :
    ∃ new, s.contributions parent (.functionDef f body) = .ok new ∧
      (role f = .method →
        ∃ (m : Method String) (attributes : List (Property String)),
          new = .method m :: attributes.map .property ∧ s.HasArguments f m) ∧
      (role f = .setter →
        ∃ p, new = [.property p] ∧ p.name = f.name ∧ p.hasSetter = true ∧
          p.type = f.parameters.placed[f.parameters.positionalOnly.length + 1]?.bind
            s.parameterType?) := by
  obtain ⟨new, hnew⟩ : Succeeds (s.contributions parent (.functionDef f body)) := by
    refine succeeds_contributions.mpr fun e he value hvalue => ?_
    exact Annotation.fault?_eq_none_iff.mpr (h value ⟨e, he, hvalue⟩)
  refine ⟨new, hnew, fun hrole => method_of_contributions hrole hnew, fun hrole => ?_⟩
  rw [← Parameters.positional_eq_placed]
  exact property_of_contributions hrole hnew

/-- A bar where nothing is imported. -/
def bar : Scope where
  moduleName := "bar"

/-- A method with a slash behind its receiver. -/
def brew : FunctionHead where
  name := "brew"
  parameters := {
    positionalOnly := [⟨"self", none⟩]
    positional := [⟨"leaves", some (.name "Tea")⟩]
    keywordOnly := [⟨"pot", some (.name "Pot")⟩] }
  returns := none
  decorators := []

theorem functions_in_class_brew :
    (∀ value, (∃ e ∈ memberHints (.functionDef brew []), bar.Reads e value) →
      0 ∉ value ∧ ∀ c ∈ value, Annotation.isSurrogate c = false) ∧
    ∃ (m : Method String) (attributes : List (Property String)),
      bar.contributions "Bar" (.functionDef brew [])
        = .ok (.method m :: attributes.map .property) ∧
      m.argumentTypes = [.single "Tea", .single "Pot"] := by
  have hlegible : ∀ value, (∃ e ∈ memberHints (.functionDef brew []), bar.Reads e value) →
      0 ∉ value ∧ ∀ c ∈ value, Annotation.isSurrogate c = false := by
    rintro value ⟨e, he, hreads⟩
    have he : e ∈ [.name "Tea", .name "Pot"] := he
    rcases List.mem_pair.mp he with rfl | rfl <;> cases hreads
  obtain ⟨new, hnew, hmethod, -⟩ := functions_in_class bar "Bar" brew [] hlegible
  obtain ⟨m, attributes, rfl, harguments⟩ := hmethod (by decide)
  refine ⟨hlegible, m, attributes, hnew, ?_⟩
  have hleaves := parameterType?_name bar "leaves" "Tea"
  have hpot := parameterType?_name bar "pot" "Pot"
  refine (harguments.bound (by decide) (List.cons_ne_nil _ _)).trans ?_
  exact (List.filterMap_cons_some hleaves).trans
    (congrArg (QualifiedName.single "Tea" :: ·) (List.filterMap_cons_some hpot))

/-- A method that takes its receiver with the others. -/
def pour : FunctionHead where
  name := "pour"
  parameters := { variadic := some ⟨"cups", none⟩, keywordOnly := [⟨"tea", some (.name "Tea")⟩] }
  returns := none
  decorators := []

/-- A setter with a slash behind the parameters. -/
def fill : FunctionHead where
  name := "pot"
  parameters := { positionalOnly := [⟨"self", none⟩, ⟨"pot", some (.name "Pot")⟩] }
  returns := none
  decorators := [.member (.name "pot") "setter"]

/-- A keyword that is taken for the receiver, and a place before the slash that is not counted. -/
theorem receivers_miscounted :
    (∃ (m : Method String) (attributes : List (Property String)),
      bar.contributions "Bar" (.functionDef pour [])
        = .ok (.method m :: attributes.map .property) ∧
      ¬ DecoratedBy pour ["staticmethod"] ∧ m.argumentTypes = [] ∧
      bar.parameterTypes pour.parameters.behindReceiver = [.single "Tea"]) ∧
    ∃ p, bar.contributions "Bar" (.functionDef fill []) = .ok [.property p] ∧
      p.hasSetter = true ∧ p.type = none ∧
      fill.parameters.placed[1]?.bind bar.parameterType? = some (.single "Pot") := by
  constructor
  · obtain ⟨new, hnew⟩ : Succeeds (bar.contributions "Bar" (.functionDef pour [])) :=
      succeeds_contributions.mpr fun e he => absurd he List.not_mem_nil
    obtain ⟨m, attributes, rfl, harguments⟩ := method_of_contributions (by decide) hnew
    exact ⟨m, attributes, hnew, by decide, harguments.unplaced (by decide) rfl,
      List.filterMap_cons_some (parameterType?_name bar "tea" "Tea")⟩
  · obtain ⟨new, hnew⟩ : Succeeds (bar.contributions "Bar" (.functionDef fill [])) :=
      succeeds_contributions.mpr fun e he => absurd he List.not_mem_nil
    obtain ⟨p, rfl, -, hsetter, htype⟩ := property_of_contributions (by decide) hnew
    exact ⟨p, hnew, hsetter, htype, parameterType?_name bar "pot" "Pot"⟩

end Scope

namespace ModuleAnalysis

open Scope (methodHead?)

/-- The methods of a class have the types of the parameters of its functions, in their order. -/
theorem methods_have_arguments {s : Scope} {name : String} {bases : List Expr} {body : List Stmt}
    {c : Class} (h : (newClass s name bases body).result = .ok c) :
    List.Forall₂ s.HasArguments (body.filterMap methodHead?) c.methods := by
  have hmethods := (members_by_role h).1
  have hheads : s.methodByRole? name = fun stmt => (methodHead? stmt).map (s.method name true) :=
    funext Scope.methodByRole?_eq
  rw [hheads, ← List.map_filterMap] at hmethods
  have hequal := (congrFun₂ List.forall₂_eq_eq_eq _ _).mpr hmethods
  have hall := List.forall₂_map_right_iff.mp (List.forall₂_map_left_iff.mp hequal)
  exact hall.imp fun f m => Scope.arguments_of_method

end ModuleAnalysis

end ClassDiagram
