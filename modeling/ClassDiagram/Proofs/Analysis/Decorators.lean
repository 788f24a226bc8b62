import ClassDiagram.Analysis.Members
import ClassDiagram.Proofs.Source.Named
import ClassDiagram.Proofs.Text.Dotted

/-!
What decorators make of a function in a class. A decorator counts by the identifiers that its chain
ends with (`DecoratedBy`), called or not; where no identifier holds a point, these are what its name
tells (`decoratorName_eq_pair_iff`). So the role of a function is that of its decorators
(`role_eq_getter_iff`, `role_eq_setter_iff`, `role_eq_method_iff`).
-/

namespace ClassDiagram.Scope

open Source (Expr FunctionHead IsWord)

/-- A decorator of the function, called or not, ends with these identifiers. -/
def DecoratedBy (f : FunctionHead) (ids : List String) : Prop :=
  ∃ d ∈ f.decorators, ids <:+ (calledFunction d).chain

instance (f : FunctionHead) (ids : List String) : Decidable (DecoratedBy f ids) :=
  inferInstanceAs (Decidable (∃ d ∈ f.decorators, ids <:+ (calledFunction d).chain))

/-- The function gets a property. -/
def IsGetter (f : FunctionHead) : Prop :=
  DecoratedBy f ["property"] ∨ DecoratedBy f ["cached_property"]

/-- The function sets the property of its own name. -/
def IsSetter (f : FunctionHead) : Prop := DecoratedBy f [f.name, "setter"] ∧ ¬ IsGetter f

/-- The function is no accessor. -/
def IsMethod (f : FunctionHead) : Prop :=
  ¬ IsGetter f ∧ ¬ DecoratedBy f [f.name, "setter"] ∧ ¬ DecoratedBy f [f.name, "deleter"]

instance (f : FunctionHead) : Decidable (IsGetter f) :=
  inferInstanceAs (Decidable (DecoratedBy f ["property"] ∨ DecoratedBy f ["cached_property"]))

instance (f : FunctionHead) : Decidable (IsMethod f) :=
  inferInstanceAs (Decidable (¬ IsGetter f ∧ ¬ DecoratedBy f [f.name, "setter"] ∧
    ¬ DecoratedBy f [f.name, "deleter"]))

/-- An identifier that tells an accessor together with the one before it. -/
def IsAccessor (id : String) : Prop := id = "setter" ∨ id = "getter" ∨ id = "deleter"

theorem point_mem_dotted (owner id : String) : '.' ∈ (owner ++ "." ++ id).toList := by
  rw [String.toList_append, String.toList_append]
  exact List.mem_append_left _ (List.mem_append_right _ (List.mem_singleton_self _))

instance (id : String) : Decidable (IsAccessor id) :=
  inferInstanceAs (Decidable (id = "setter" ∨ id = "getter" ∨ id = "deleter"))

theorem IsAccessor.point {id : String} (h : IsAccessor id) : '.' ∉ id.toList := by
  rcases h with rfl | rfl | rfl <;> decide

/-- The name of a decorator by the last identifiers of its chain. -/
theorem decoratorName_cases (d : Expr) :
    ((calledFunction d).chain = [] ∧ decoratorName d = "") ∨
      (∃ front owner id, (calledFunction d).chain = front ++ [owner, id] ∧ IsAccessor id ∧
        decoratorName d = owner ++ "." ++ id) ∨
      (∃ front id, (calledFunction d).chain = front ++ [id] ∧ (front = [] ∨ ¬ IsAccessor id) ∧
        decoratorName d = id) := by
  rw [decoratorName]
  cases hreverse : (calledFunction d).chain.reverse with
  | nil => exact .inl ⟨List.reverse_eq_nil_iff.mp hreverse, rfl⟩
  | cons id rest =>
    have hchain : (calledFunction d).chain = rest.reverse ++ [id] := by
      rw [← List.reverse_cons, ← hreverse, List.reverse_reverse]
    cases rest with
    | nil => exact .inr (.inr ⟨[], id, hchain, .inl rfl, rfl⟩)
    | cons owner front =>
      by_cases hid : IsAccessor id
      · refine .inr (.inl ⟨front.reverse, owner, id, ?_, hid, if_pos hid⟩)
        rw [hchain, List.reverse_cons, List.append_assoc]
        rfl
      · exact .inr (.inr ⟨_, id, hchain, .inr hid, if_neg hid⟩)

/-- A name without a point, which tells no accessor, is the last identifier. -/
theorem decoratorName_eq_iff {d : Expr} {name : String} (hne : name ≠ "")
    (hpoint : '.' ∉ name.toList) (haccessor : ¬ IsAccessor name) :
    decoratorName d = name ↔ [name] <:+ (calledFunction d).chain := by
  rcases decoratorName_cases d with ⟨hchain, hname⟩ | ⟨front, owner, id, hchain, hid, hname⟩ |
    ⟨front, id, hchain, -, hname⟩
  · rw [hchain, hname, List.suffix_nil]
    exact iff_of_false hne.symm (List.cons_ne_nil _ _)
  · rw [hname, hchain, List.append_cons, List.singleton_suffix_append_singleton_iff]
    refine iff_of_false (fun h => hpoint (h ▸ point_mem_dotted owner id)) fun h => haccessor ?_
    exact h ▸ hid
  · rw [hname, hchain, List.singleton_suffix_append_singleton_iff]
    exact eq_comm

/-- The name of an accessor is the last two identifiers. -/
theorem decoratorName_eq_pair_iff {d : Expr} {owner id : String} (hid : IsAccessor id)
    (hd : ∀ part ∈ (calledFunction d).chain, '.' ∉ part.toList) :
    decoratorName d = owner ++ "." ++ id ↔ [owner, id] <:+ (calledFunction d).chain := by
  rcases decoratorName_cases d with ⟨hchain, hname⟩ | ⟨front, owner', id', hchain, hid', hname⟩ |
    ⟨front, last, hchain, hlast, hname⟩
  · rw [hchain, hname, List.suffix_nil]
    refine iff_of_false (fun h => ?_) (List.cons_ne_nil _ _)
    exact absurd (h ▸ point_mem_dotted owner id) (by decide)
  · have hsuffix : [] ++ [owner, id] <:+ front ++ [owner', id'] ↔ _ :=
      List.suffix_append_inj_of_length_eq (by rfl)
    rw [List.nil_append, and_iff_right List.nil_suffix] at hsuffix
    rw [hname, hchain, hsuffix]
    constructor
    · intro h
      have hsplit := congrArg Text.Dotted.splitLast h
      rw [Text.Dotted.splitLast_append hid'.point, Text.Dotted.splitLast_append hid.point] at hsplit
      cases hsplit
      rfl
    · intro h
      cases h
      rfl
  · rw [hname, hchain]
    constructor
    · intro h
      have hlast : last ∈ (calledFunction d).chain :=
        hchain ▸ List.mem_append_right _ (List.mem_singleton_self _)
      exact absurd (h ▸ point_mem_dotted owner id) (hd last hlast)
    · intro h
      have hsame : id = last := by
        refine List.singleton_suffix_append_singleton_iff.mp (List.IsSuffix.trans ?_ h)
        exact List.suffix_cons owner [id]
      rcases hlast with rfl | hlast
      · exact absurd h.length_le (Nat.not_succ_le_self 1)
      · exact absurd (hsame ▸ hid) hlast

section Role

variable {f : FunctionHead}

theorem mem_decoratorNames_iff {name : String} (hne : name ≠ "") (hpoint : '.' ∉ name.toList)
    (haccessor : ¬ IsAccessor name) : name ∈ decoratorNames f ↔ DecoratedBy f [name] := by
  rw [decoratorNames, List.mem_map]
  exact exists_congr fun d => and_congr_right fun _ => decoratorName_eq_iff hne hpoint haccessor

theorem named_calledFunction {d : Expr} (h : d.Named) : (calledFunction d).Named := by
  cases h with
  | call h => exact h
  | _ => constructor <;> assumption

theorem isGetter_iff :
    IsGetter f ↔ "property" ∈ decoratorNames f ∨ "cached_property" ∈ decoratorNames f := by
  refine or_congr ?_ ?_
  · exact (mem_decoratorNames_iff (by decide) (by decide) (by decide)).symm
  · exact (mem_decoratorNames_iff (by decide) (by decide) (by decide)).symm

variable (hf : ∀ d ∈ f.decorators, d.Named)
include hf

theorem mem_decoratorNames_pair_iff {id : String} (hid : IsAccessor id) :
    f.name ++ "." ++ id ∈ decoratorNames f ↔ DecoratedBy f [f.name, id] := by
  rw [decoratorNames, List.mem_map]
  refine exists_congr fun d => and_congr_right fun hd => decoratorName_eq_pair_iff hid ?_
  exact fun part hpart => ((named_calledFunction (hf d hd)).chain part hpart).point

/-- **The role of a function is that of its decorators.** -/
theorem role_eq : role f =
    if IsGetter f then .getter
    else if DecoratedBy f [f.name, "setter"] then .setter
    else if DecoratedBy f [f.name, "deleter"] then .deleter
    else .method := by
  have hsetter : _ ↔ DecoratedBy f [f.name, "setter"] :=
    mem_decoratorNames_pair_iff hf (.inl rfl)
  have hdeleter : _ ↔ DecoratedBy f [f.name, "deleter"] :=
    mem_decoratorNames_pair_iff hf (.inr (.inr rfl))
  rw [String.append_assoc] at hsetter hdeleter
  simp only [role, isGetter_iff, ← hsetter, ← hdeleter]
  rfl

theorem role_eq_getter_iff : role f = .getter ↔ IsGetter f := by
  grind [role_eq]

theorem role_eq_setter_iff : role f = .setter ↔ IsSetter f := by
  grind [role_eq, IsSetter]

theorem role_eq_method_iff : role f = .method ↔ IsMethod f := by
  grind [role_eq, IsMethod]

end Role

end ClassDiagram.Scope
