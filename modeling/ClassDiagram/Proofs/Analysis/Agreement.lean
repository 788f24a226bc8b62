import ClassDiagram.Proofs.Analysis.Quotation

/-!
What the analysis of a statement takes from the scope: the types of the expressions in it that are
looked up (`Scope.lookedUp`). Scopes that agree on these give the statement the same members
(`addBody_congr`, `newClass_congr`), and they agree on an expression if they agree on the chains of
identifiers in it (`agree_of_mentions`).
-/

namespace ClassDiagram

open Source (Expr FunctionHead Parameter Stmt)
open Text (CodePoint)
open Annotation (expression?)

namespace Scope

variable {s t : Scope}

/-- Both scopes give an expression the same type, or fail on it in the same way. -/
def Agree (s t : Scope) (e : Expr) : Prop := s.resolve e = t.resolve e

/-! ## Expressions -/

/-- The chains of identifiers that can be looked up in an expression, strings in it included. -/
inductive Mentions : Expr → List String → Prop
  | chain (e : Expr) : Mentions e e.chain
  | quoted {value : List CodePoint} {ids : List String}
      {e : { e : Expr // e.longestText < value.length }}
      (hread : expression? value = .ok (some e)) (h : Mentions e ids) : Mentions (.text value) ids
  | argument {value index argument : Expr} {ids : List String}
      (hwrapped : wrapped? value index = some (some argument)) (h : Mentions argument ids) :
      Mentions (.subscript value index) ids
  | subscripted {value index : Expr} {ids : List String} (hwrapped : wrapped? value index = none)
      (h : Mentions value ids) : Mentions (.subscript value index) ids
  | left {left right : Expr} {ids : List String} (h : Mentions left ids) :
      Mentions (.union left right) ids
  | right {left right : Expr} {ids : List String} (h : Mentions right ids) :
      Mentions (.union left right) ids

/-- **Only the chains of identifiers in an expression count.** -/
theorem agree_of_mentions {e : Expr}
    (h : ∀ ids, Mentions e ids → s.resolveChain ids = t.resolveChain ids) : s.Agree t e := by
  induction e using Scope.resolve.induct with
  | case1 value ih =>
    rw [Agree, resolve_text, resolve_text]
    cases hread : expression? value with
    | error fault => rfl
    | ok found =>
      cases found with
      | none => rfl
      | some e => exact ih e.1 e.2 fun ids hids => h ids (.quoted hread hids)
  | case2 value index argument hwrapped ih =>
    rw [Agree, resolve_argument s hwrapped, resolve_argument t hwrapped]
    exact ih fun ids hids => h ids (.argument hwrapped hids)
  | case3 value index hwrapped =>
    rw [Agree, resolve_missing s hwrapped, resolve_missing t hwrapped]
  | case4 value index hwrapped ih =>
    rw [Agree, resolve_subscripted s hwrapped, resolve_subscripted t hwrapped]
    exact ih fun ids hids => h ids (.subscripted hwrapped hids)
  | case5 left right ihl ihr =>
    have hleft : s.resolve left = t.resolve left := ihl fun ids hids => h ids (.left hids)
    have hright : s.resolve right = t.resolve right := ihr fun ids hids => h ids (.right hids)
    rw [Agree, resolve_union, resolve_union, hleft, hright]
  | case6 e htext hsubscript hunion =>
    rw [Agree, resolve, resolve, h e.chain (.chain e)] <;> assumption

/-! ## Members -/

theorem resolve?_congr {hint : Option Expr} (h : ∀ e ∈ hint.toList, s.Agree t e) :
    s.resolve? hint = t.resolve? hint := by
  cases hint with
  | none => rfl
  | some e => exact h e (List.mem_singleton_self e)

theorem resolveParameters_congr {ps : List Parameter}
    (h : ∀ e ∈ ps.filterMap Parameter.hint, s.Agree t e) :
    s.resolveParameters ps = t.resolveParameters ps := by
  induction ps with
  | nil => rfl
  | cons p ps ih =>
    have hsplit : (p :: ps).filterMap Parameter.hint
        = p.hint.toList ++ ps.filterMap Parameter.hint := by
      cases hp : p.hint <;> simp [hp]
    rw [hsplit, List.forall_mem_append] at h
    rw [resolveParameters, resolveParameters, resolve?_congr h.1, ih h.2]

theorem method_congr (parent : String) {inClass : Bool} {f : FunctionHead}
    (h : ∀ e ∈ functionHints inClass f, s.Agree t e) :
    s.method parent inClass f = t.method parent inClass f := by
  obtain ⟨hreturns, hparameters⟩ := List.forall_mem_append.mp h
  have hown := resolveParameters_congr hparameters
  rw [ownParameters] at hown
  rw [method, method, resolve?_congr hreturns]
  simp only [hown]

theorem instanceProperties_congr (parent : String) {hint : Option Expr} {targets : List Expr}
    (h : ∀ e ∈ hint.toList, (∃ target ∈ targets, (instanceAttribute? target).isSome) →
      s.Agree t e) :
    s.instanceProperties parent hint targets = t.instanceProperties parent hint targets := by
  induction targets with
  | nil => rfl
  | cons target targets ih =>
    have hrest := ih fun e he ⟨later, hlater, hattribute⟩ =>
      h e he ⟨later, List.mem_cons_of_mem _ hlater, hattribute⟩
    rw [instanceProperties, instanceProperties, hrest]
    cases htarget : instanceAttribute? target with
    | none => rfl
    | some attr =>
      have hhint : s.resolve? hint = t.resolve? hint := resolve?_congr fun e he =>
        h e he ⟨target, List.mem_cons_self, by rw [htarget]; rfl⟩
      simp only [hhint]

theorem attributesOf_cons (s : Scope) (parent : String) (constructor : Bool) (stmt : Stmt)
    (stmts : List Stmt) : s.attributesOf parent constructor (stmt :: stmts) = do
      let first ← s.instanceProperties parent (instanceTargets constructor stmt).2
        (instanceTargets constructor stmt).1
      return first ++ (← s.attributesOf parent constructor stmts) := rfl

theorem attributesOf_congr (parent : String) (constructor : Bool) {stmts : List Stmt}
    (h : ∀ e ∈ stmts.flatMap attributeHints, s.Agree t e) :
    s.attributesOf parent constructor stmts = t.attributesOf parent constructor stmts := by
  induction stmts with
  | nil => rfl
  | cons stmt stmts ih =>
    rw [List.flatMap_cons, List.forall_mem_append] at h
    have hfirst : s.instanceProperties parent (instanceTargets constructor stmt).2
          (instanceTargets constructor stmt).1
        = t.instanceProperties parent (instanceTargets constructor stmt).2
          (instanceTargets constructor stmt).1 := by
      refine instanceProperties_congr parent fun e he ⟨target, htarget, hattribute⟩ => ?_
      refine h.1 e ?_
      cases stmt with
      | annotated target' hint =>
        rw [List.mem_singleton.mp htarget] at hattribute
        rwa [attributeHints, if_pos hattribute]
      | assign => cases constructor <;> cases he
      | _ => cases he
    rw [attributesOf_cons, attributesOf_cons, hfirst, ih h.2]

theorem contributions_congr (parent : String) {stmt : Stmt}
    (h : ∀ e ∈ memberHints stmt, s.Agree t e) :
    s.contributions parent stmt = t.contributions parent stmt := by
  cases stmt with
  | functionDef f body =>
    rw [memberHints] at h
    rw [contributions, contributions, functionContributions, functionContributions]
    cases hrole : role f with
    | getter | setter =>
      rw [hrole] at h
      simp only [resolve?_congr h]
    | deleter => rfl
    | method =>
      rw [hrole] at h
      obtain ⟨hmethod, hattributes⟩ := List.forall_mem_append.mp h
      simp only [method_congr parent hmethod, attributesOf_congr parent _ hattributes]
  | annotated target hint =>
    cases target with
    | name id =>
      have hhint : s.resolve hint = t.resolve hint := h hint (List.mem_singleton_self hint)
      rw [contributions, contributions, hhint]
    | _ => rfl
  | _ => rfl

theorem addBody_congr (c : Class) {body : List Stmt}
    (h : ∀ e ∈ body.flatMap memberHints, s.Agree t e) : s.addBody c body = t.addBody c body := by
  induction body generalizing c with
  | nil => rfl
  | cons stmt body ih =>
    rw [List.flatMap_cons, List.forall_mem_append] at h
    rw [addBody, addBody, contributions_congr c.name h.1]
    simp only [fun d => ih d h.2]

/-- The bases that can be superclasses to draw, without their arguments. -/
def drawnBases (bases : List Expr) : List Expr := (bases.map baseTarget).filter isDrawnBase

theorem resolveBase_congr {bases : List Expr} (h : ∀ e ∈ drawnBases bases, s.Agree t e) :
    s.resolveBase bases = t.resolveBase bases := by
  induction bases with
  | nil => rfl
  | cons base bases ih =>
    rw [drawnBases, List.map_cons] at h
    rw [resolveBase, resolveBase]
    by_cases hdrawn : isDrawnBase (baseTarget base) = true
    · rw [List.filter_cons_of_pos hdrawn, List.forall_mem_cons] at h
      have hbase : s.resolve (baseTarget base) = t.resolve (baseTarget base) := h.1
      simp only [hdrawn, if_true, hbase, ih h.2]
    · rw [List.filter_cons_of_neg hdrawn] at h
      simp only [hdrawn, Bool.false_eq_true, if_false, ih h]

/-- The expressions of a statement of a module whose types are looked up. -/
def lookedUp : Stmt → List Expr
  | .classDef _ bases body => drawnBases bases ++ body.flatMap memberHints
  | stmt => hints stmt

end Scope

namespace ModuleAnalysis

theorem newClass_congr {s t : Scope} (hmodule : s.moduleName = t.moduleName) {name : String}
    {bases : List Expr} {body : List Stmt}
    (h : ∀ e ∈ Scope.lookedUp (.classDef name bases body), s.Agree t e) :
    newClass s name bases body = newClass t name bases body := by
  obtain ⟨hbases, hbody⟩ := List.forall_mem_append.mp h
  rw [newClass, newClass, Scope.resolveBase_congr hbases, hmodule]
  simp only [fun c => Scope.addBody_congr c hbody]

end ModuleAnalysis

end ClassDiagram
