import Mathlib.Data.List.Forall2
import ClassDiagram.Proofs.Analysis.Findings

/-!
Statements that are alike but for their expressions. `Stmt.Alike R` says that two statements have
one shape and the same names, and that `R` relates the bases and the annotations at the same places
of both. If related annotations have one type, each in a scope of its own, then the members of
classes and the functions of a module are the same in the two scopes (`newClass_alike`,
`method_alike`).
-/

namespace ClassDiagram

open Source (Expr FunctionHead Parameter Parameters Stmt)

/-! ## Statements -/

namespace Source

variable (R : Expr → Expr → Prop)

structure Parameter.Alike (p q : Parameter) : Prop where
  name : p.name = q.name
  hint : Option.Rel R p.hint q.hint

structure Parameters.Alike (ps qs : Parameters) : Prop where
  positionalOnly : List.Forall₂ (Parameter.Alike R) ps.positionalOnly qs.positionalOnly
  positional : List.Forall₂ (Parameter.Alike R) ps.positional qs.positional
  variadic : Option.Rel (Parameter.Alike R) ps.variadic qs.variadic
  keywordOnly : List.Forall₂ (Parameter.Alike R) ps.keywordOnly qs.keywordOnly
  keywordVariadic : Option.Rel (Parameter.Alike R) ps.keywordVariadic qs.keywordVariadic

structure FunctionHead.Alike (f g : FunctionHead) : Prop where
  name : f.name = g.name
  parameters : f.parameters.Alike R g.parameters
  returns : Option.Rel R f.returns g.returns
  decorators : f.decorators = g.decorators

/-- Statements of one shape with related bases and annotations. -/
inductive Stmt.Alike : Stmt → Stmt → Prop
  | classDef (name : String) {bases bases' : List Expr} {body body' : List Stmt}
      (hbases : List.Forall₂ R bases bases') (hbody : List.Forall₂ Stmt.Alike body body') :
      Stmt.Alike (.classDef name bases body) (.classDef name bases' body')
  | functionDef {f g : FunctionHead} {body body' : List Stmt} (hhead : f.Alike R g)
      (hbody : List.Forall₂ Stmt.Alike body body') :
      Stmt.Alike (.functionDef f body) (.functionDef g body')
  | importModules (aliases : List Alias) :
      Stmt.Alike (.importModules aliases) (.importModules aliases)
  | importFrom (source : Option String) (aliases : List Alias) (level : Nat) :
      Stmt.Alike (.importFrom source aliases level) (.importFrom source aliases level)
  | annotated (target : Expr) {hint hint' : Expr} (hhint : R hint hint') :
      Stmt.Alike (.annotated target hint) (.annotated target hint')
  | assign (targets : List Expr) : Stmt.Alike (.assign targets) (.assign targets)
  | compound {parts parts' : List Stmt} (hparts : List.Forall₂ Stmt.Alike parts parts') :
      Stmt.Alike (.compound parts) (.compound parts')
  | other : Stmt.Alike .other .other

namespace Stmt

variable {R}

theorem forall₂_zipLevels {α β : Type} {S : α → β → Prop} {as bs : List (List α)}
    {cs ds : List (List β)} (h : List.Forall₂ (List.Forall₂ S) as cs)
    (h' : List.Forall₂ (List.Forall₂ S) bs ds) :
    List.Forall₂ (List.Forall₂ S) (zipLevels as bs) (zipLevels cs ds) := by
  induction h generalizing bs ds with
  | nil =>
    rw [zipLevels, zipLevels]
    exact h'
  | cons hhead htail ih =>
    cases h' with
    | nil => exact .cons hhead htail
    | cons hhead' htail' => exact .cons (List.rel_append hhead hhead') (ih htail')

theorem levelsOf_alike {stmts stmts' : List Stmt} (h : List.Forall₂ (Stmt.Alike R) stmts stmts')
    (ih : ∀ x ∈ stmts, ∀ y, x.Alike R y →
      List.Forall₂ (List.Forall₂ (Stmt.Alike R)) x.levels y.levels) :
    List.Forall₂ (List.Forall₂ (Stmt.Alike R)) (levels.levelsOf stmts)
      (levels.levelsOf stmts') := by
  induction h with
  | nil => exact .nil
  | @cons x y xs ys hxy _ ihrest =>
    rw [levels.levelsOf, levels.levelsOf]
    refine forall₂_zipLevels (ih x List.mem_cons_self y hxy) (ihrest fun z hz => ?_)
    exact ih z (List.mem_cons_of_mem x hz)

/-- Each level below one statement is like that below the other. -/
theorem levels_alike {x y : Stmt} (h : x.Alike R y) :
    List.Forall₂ (List.Forall₂ (Stmt.Alike R)) x.levels y.levels := by
  have hself : List.Forall₂ (Stmt.Alike R) [x] [y] := .cons h .nil
  cases h with
  | classDef _ _ hbody | functionDef _ hbody | compound hbody =>
    rw [levels, levels]
    exact .cons hself (levelsOf_alike hbody fun z hz w hw => levels_alike hw)
  | _ => exact .cons hself .nil
termination_by sizeOf x
decreasing_by
  all_goals
    have hsize := List.sizeOf_lt_of_mem hz
    simp only [classDef.sizeOf_spec, functionDef.sizeOf_spec, compound.sizeOf_spec]
    omega

theorem walk_alike {x y : Stmt} (h : x.Alike R y) :
    List.Forall₂ (Stmt.Alike R) x.walk y.walk :=
  List.rel_flatten (levels_alike h)

end Stmt

end Source

/-- Entries at one place of lists that are related one by one. -/
theorem rel_getElem? {α β : Type} {S : α → β → Prop} {as : List α} {bs : List β}
    (h : List.Forall₂ S as bs) (i : Nat) : Option.Rel S as[i]? bs[i]? := by
  induction h generalizing i with
  | nil => exact .none
  | cons hhead _ ih =>
    cases i with
    | zero => exact .some hhead
    | succ i => exact ih i

/-! ## Members -/

namespace Scope

variable {s t : Scope} {R : Expr → Expr → Prop}

/-- Related expressions have one type, each in its own scope. -/
def SameTypes (R : Expr → Expr → Prop) (s t : Scope) : Prop :=
  ∀ e e', R e e' → s.resolve e = t.resolve e'

theorem resolve?_alike (htypes : SameTypes R s t) {hint hint' : Option Expr}
    (h : Option.Rel R hint hint') : s.resolve? hint = t.resolve? hint' := by
  cases h with
  | some h => exact htypes _ _ h
  | none => rfl

theorem resolveParameters_alike (htypes : SameTypes R s t) {ps qs : List Parameter}
    (h : List.Forall₂ (Parameter.Alike R) ps qs) :
    s.resolveParameters ps = t.resolveParameters qs := by
  induction h with
  | nil => rfl
  | cons hp _ ih => rw [resolveParameters, resolveParameters, resolve?_alike htypes hp.hint, ih]

theorem signatureParameters_alike {ps qs : Parameters} (h : ps.Alike R qs) :
    List.Forall₂ (Parameter.Alike R) (signatureParameters ps) (signatureParameters qs) :=
  List.rel_append (List.rel_append h.positionalOnly h.positional) h.keywordOnly

theorem decoratorNames_alike {f g : FunctionHead} (h : f.Alike R g) :
    decoratorNames f = decoratorNames g := by
  rw [decoratorNames, decoratorNames, h.decorators]

theorem role_alike {f g : FunctionHead} (h : f.Alike R g) : role f = role g := by
  simp only [role, decoratorNames_alike h, h.name]

theorem method_alike (htypes : SameTypes R s t) (parent : String) (inClass : Bool)
    {f g : FunctionHead} (h : f.Alike R g) :
    s.method parent inClass f = t.method parent inClass g := by
  have hparameters := signatureParameters_alike h.parameters
  have hown : s.resolveParameters (ownParameters inClass f)
      = t.resolveParameters (ownParameters inClass g) := by
    rw [ownParameters, ownParameters, decoratorNames_alike h]
    split
    · exact resolveParameters_alike htypes (List.forall₂_drop 1 hparameters)
    · exact resolveParameters_alike htypes hparameters
  rw [ownParameters, ownParameters, decoratorNames_alike h] at hown
  simp only [method, decoratorNames_alike h, h.name, resolve?_alike htypes h.returns, hown]

theorem instanceProperties_alike (htypes : SameTypes R s t) (parent : String)
    {hint hint' : Option Expr} (h : Option.Rel R hint hint') (targets : List Expr) :
    s.instanceProperties parent hint targets = t.instanceProperties parent hint' targets := by
  induction targets with
  | nil => rfl
  | cons target targets ih =>
    simp only [instanceProperties, resolve?_alike htypes h, ih]

theorem attributesOf_alike (htypes : SameTypes R s t) (parent : String) (constructor : Bool)
    {stmts stmts' : List Stmt} (h : List.Forall₂ (Stmt.Alike R) stmts stmts') :
    s.attributesOf parent constructor stmts = t.attributesOf parent constructor stmts' := by
  induction h with
  | nil => rfl
  | @cons x y xs ys hxy _ ih =>
    have htargets : (instanceTargets constructor x).1 = (instanceTargets constructor y).1 ∧
        Option.Rel R (instanceTargets constructor x).2 (instanceTargets constructor y).2 := by
      cases hxy with
      | annotated target hhint => exact ⟨rfl, .some hhint⟩
      | assign targets => cases constructor <;> exact ⟨rfl, .none⟩
      | _ => exact ⟨rfl, .none⟩
    rw [attributesOf_cons, attributesOf_cons, ih, htargets.1,
      instanceProperties_alike htypes parent htargets.2]

/-- Statements of a class body that make an attribute static or not alike. -/
def MarkedAlike (x y : Stmt) : Prop := ∀ target target' hint hint',
  x = .annotated target hint → y = .annotated target' hint' →
    isClassVariable hint = isClassVariable hint'

theorem functionContributions_alike (htypes : SameTypes R s t) (parent : String)
    {f g : FunctionHead} (h : f.Alike R g) {x y : Stmt} (hxy : x.Alike R y) :
    s.functionContributions parent f x = t.functionContributions parent g y := by
  have hpositional : Option.Rel R (f.parameters.positional[1]?.bind Parameter.hint)
      (g.parameters.positional[1]?.bind Parameter.hint) := by
    have hsecond := rel_getElem? h.parameters.positional 1
    generalize f.parameters.positional[1]? = p, g.parameters.positional[1]? = q at hsecond ⊢
    cases hsecond with
    | some hpq => exact hpq.hint
    | none => exact .none
  simp only [functionContributions, role_alike h, h.name, resolve?_alike htypes h.returns,
    resolve?_alike htypes hpositional, method_alike htypes parent true h,
    attributesOf_alike htypes parent _ (Stmt.walk_alike hxy)]

theorem contributions_alike (htypes : SameTypes R s t) (parent : String) {x y : Stmt}
    (h : x.Alike R y) (hmarked : MarkedAlike x y) :
    s.contributions parent x = t.contributions parent y := by
  cases h with
  | functionDef hhead hbody =>
    exact functionContributions_alike htypes parent hhead (.functionDef hhead hbody)
  | annotated target hhint =>
    cases target with
    | name id =>
      simp only [contributions, htypes _ _ hhint, hmarked _ _ _ _ rfl rfl]
    | _ => rfl
  | _ => rfl

theorem addBody_alike (htypes : SameTypes R s t) (c : Class) {body body' : List Stmt}
    (h : List.Forall₂ (fun x y => x.Alike R y ∧ MarkedAlike x y) body body') :
    s.addBody c body = t.addBody c body' := by
  induction h generalizing c with
  | nil => rfl
  | cons hxy _ ih =>
    rw [addBody, addBody, contributions_alike htypes c.name hxy.1 hxy.2]
    simp only [ih]

/-! ## Superclasses -/

/-- The type that a base is drawn for; none for the bases that are not drawn. -/
def baseType (s : Scope) (base : Expr) : Except TextFault (Option QualifiedName) :=
  if isDrawnBase (baseTarget base) then s.resolve (baseTarget base) else .ok none

theorem resolveBase_cons (s : Scope) (base : Expr) (bases : List Expr) :
    s.resolveBase (base :: bases) = s.baseType base >>= fun
      | some q => .ok (some q)
      | none => s.resolveBase bases := by
  rw [resolveBase, baseType]
  split
  · cases s.resolve (baseTarget base) with
    | error => rfl
    | ok found => cases found <;> rfl
  · rfl

theorem resolveBase_alike {bases bases' : List Expr}
    (h : List.Forall₂ (fun e e' => s.baseType e = t.baseType e') bases bases') :
    s.resolveBase bases = t.resolveBase bases' := by
  induction h with
  | nil => rfl
  | cons hbase _ ih => rw [resolveBase_cons, resolveBase_cons, hbase, ih]

end Scope

/-- **Classes that are alike but for their expressions.** Bases that are drawn for the same types
and members with annotations of the same types give one class. -/
theorem ModuleAnalysis.newClass_alike {s t : Scope} {R : Expr → Expr → Prop}
    (hmodule : s.moduleName = t.moduleName) (htypes : Scope.SameTypes R s t) (name : String)
    {bases bases' : List Expr} {body body' : List Stmt}
    (hbases : List.Forall₂ (fun e e' => s.baseType e = t.baseType e') bases bases')
    (hbody : List.Forall₂ (fun x y => x.Alike R y ∧ Scope.MarkedAlike x y) body body') :
    newClass s name bases body = newClass t name bases' body' := by
  rw [newClass, newClass, Scope.resolveBase_alike hbases, hmodule]
  simp only [fun c => Scope.addBody_alike htypes c hbody]

end ClassDiagram
