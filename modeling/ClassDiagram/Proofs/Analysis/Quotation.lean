import Mathlib.Data.List.TakeWhile
import ClassDiagram.Proofs.Analysis.Reference

/-!
Which annotations can be looked up. A string in an annotation is read as an expression, with the
strings in it in their turn (`Scope.Reads`); a look-up succeeds just if no string that it reads has
a fault (`succeeds_resolve`). Superclasses are never strings (`succeeds_resolveBase`), so the
analysis of statements succeeds just if this holds for the annotations that it looks at
(`Scope.hints`), each in the scope at its place (`ParsedSource.succeeds_module`).
-/

namespace ClassDiagram

open Source (Expr FunctionHead Parameter Stmt)
open Text (CodePoint)
open Annotation (expression? fault?)

namespace Annotation

theorem fault?_eq_none_iff {value : List CodePoint} :
    fault? value = none ↔ 0 ∉ value ∧ ∀ c ∈ value, isSurrogate c = false := by
  rw [fault?]
  split
  · rename_i code rest hdrop
    have hcode : code ∈ value := (List.dropWhile_sublist _).subset (hdrop ▸ List.mem_cons_self)
    have hsurrogate := List.head?_dropWhile_not (fun c => !isSurrogate c) value
    rw [hdrop] at hsurrogate
    simp only [List.head?_cons, Bool.not_eq_false'] at hsurrogate
    simp only [reduceCtorEq, false_iff, not_and]
    intro _ h
    rw [h code hcode] at hsurrogate
    cases hsurrogate
  · rename_i hdrop
    have hnone : ∀ c ∈ value, isSurrogate c = false := by
      simpa using List.dropWhile_eq_nil_iff.mp hdrop
    simpa using fun _ => hnone

/-- A lone surrogate is a fault. -/
theorem fault?_surrogate : fault? [0xD800] = some (.surrogates 0xD800 0 0) := rfl

theorem expression?_error_iff {value : List CodePoint} {fault : TextFault} :
    expression? value = .error fault ↔ fault? value = some fault := by
  rw [expression?]
  split
  · rename_i other hfault
    rw [hfault, Except.error.injEq, Option.some.injEq]
  · rename_i hfault
    rw [hfault]
    split
    · split <;> simp
    · simp

end Annotation

namespace Scope

variable {s : Scope}

/-! ## Strings that are read -/

/-- The strings that are read when the type of an annotation is looked up. -/
inductive Reads (s : Scope) : Expr → List CodePoint → Prop
  | text (value : List CodePoint) : Reads s (.text value) value
  /-- A string in the expression that a string holds. -/
  | quoted {value inner : List CodePoint} {e : { e : Expr // e.longestText < value.length }}
      (hread : expression? value = .ok (some e)) (h : Reads s e inner) : Reads s (.text value) inner
  | argument {value index argument : Expr} {inner : List CodePoint}
      (hwrapped : wrapped? value index = some (some argument)) (h : Reads s argument inner) :
      Reads s (.subscript value index) inner
  | subscripted {value index : Expr} {inner : List CodePoint}
      (hwrapped : wrapped? value index = none) (h : Reads s value inner) :
      Reads s (.subscript value index) inner
  | left {left right : Expr} {inner : List CodePoint} (h : Reads s left inner) :
      Reads s (.union left right) inner
  /-- The right side of a union is looked at if the left one gives no type. -/
  | right {left right : Expr} {inner : List CodePoint} (hleft : s.resolve left = .ok none)
      (h : Reads s right inner) : Reads s (.union left right) inner

/-- The strings that are read in an annotation are no longer than those written in it. -/
theorem Reads.length_le {e : Expr} {inner : List CodePoint} (h : s.Reads e inner) :
    inner.length ≤ e.longestText := by
  induction h with
  | text value => exact Nat.le_refl _
  | @quoted value inner e _ _ ih =>
    have hshorter := e.property
    rw [Expr.longestText]
    omega
  | argument hwrapped _ ih =>
    have hargument := longestText_argument (mem_of_wrapped? hwrapped)
    rw [Expr.longestText]
    omega
  | subscripted _ _ ih | left _ ih | right _ _ ih =>
    rw [Expr.longestText]
    omega

/-- A string within a string of one character is empty. -/
theorem eq_or_eq_nil_of_reads_singleton {c : CodePoint} {value : List CodePoint}
    (h : s.Reads (.text [c]) value) : value = [c] ∨ value = [] := by
  cases h with
  | text => exact .inl rfl
  | @quoted _ _ e _ hinner =>
    have hshorter : e.1.longestText < 1 := e.property
    have hlength := hinner.length_le
    exact .inr (List.eq_nil_of_length_eq_zero (by omega))

/-- A string with a fault is the only one that is read. -/
theorem eq_of_reads_faulty {text value : List CodePoint} {fault : TextFault}
    (hfault : fault? text = some fault) (h : s.Reads (.text text) value) : value = text := by
  cases h with
  | text => rfl
  | quoted hread =>
    have herror := Annotation.expression?_error_iff.mpr hfault
    cases herror.symm.trans hread

/-- No string that is read has a fault. -/
def Legible (s : Scope) (e : Expr) : Prop := ∀ value, s.Reads e value → fault? value = none

theorem legible_text {value : List CodePoint} :
    s.Legible (.text value) ↔
      fault? value = none ∧ ∀ e, expression? value = .ok (some e) → s.Legible e := by
  constructor
  · intro h
    exact ⟨h value (.text value), fun e he inner hinner => h inner (.quoted he hinner)⟩
  · rintro ⟨hfault, hquoted⟩ inner hinner
    cases hinner with
    | text => exact hfault
    | quoted hread hinner => exact hquoted _ hread inner hinner

theorem legible_argument {value index argument : Expr}
    (h : wrapped? value index = some (some argument)) :
    s.Legible (.subscript value index) ↔ s.Legible argument := by
  constructor
  · exact fun hlegible inner hinner => hlegible inner (.argument h hinner)
  · intro hlegible inner hinner
    cases hinner with
    | argument hwrapped hinner =>
      rw [h] at hwrapped
      cases hwrapped
      exact hlegible inner hinner
    | subscripted hwrapped =>
      rw [h] at hwrapped
      cases hwrapped

theorem legible_of_no_argument {value index : Expr} (h : wrapped? value index = some none) :
    s.Legible (.subscript value index) := by
  intro inner hinner
  cases hinner with
  | argument hwrapped | subscripted hwrapped =>
    rw [h] at hwrapped
    cases hwrapped

theorem legible_subscripted {value index : Expr} (h : wrapped? value index = none) :
    s.Legible (.subscript value index) ↔ s.Legible value := by
  constructor
  · exact fun hlegible inner hinner => hlegible inner (.subscripted h hinner)
  · intro hlegible inner hinner
    cases hinner with
    | argument hwrapped =>
      rw [h] at hwrapped
      cases hwrapped
    | subscripted _ hinner => exact hlegible inner hinner

theorem legible_union {left right : Expr} :
    s.Legible (.union left right) ↔
      s.Legible left ∧ (s.resolve left = .ok none → s.Legible right) := by
  constructor
  · intro h
    exact ⟨fun inner hinner => h inner (.left hinner),
      fun hleft inner hinner => h inner (.right hleft hinner)⟩
  · rintro ⟨hleft, hright⟩ inner hinner
    cases hinner with
    | left h => exact hleft inner h
    | right hnone h => exact hright hnone inner h

/-- **A look-up succeeds just if no string that it reads has a fault.** -/
theorem succeeds_resolve {e : Expr} : Succeeds (s.resolve e) ↔ s.Legible e := by
  induction e using Scope.resolve.induct with
  | case1 value ih =>
    rw [legible_text, resolve_text]
    cases h : expression? value with
    | error fault =>
      have hfault : fault? value = some fault := Annotation.expression?_error_iff.mp h
      rw [hfault]
      simp only [reduceCtorEq, false_and, iff_false]
      exact not_succeeds_error fault
    | ok found =>
      have hfault : fault? value = none := by
        cases hfault : fault? value with
        | none => rfl
        | some fault =>
          have herror := Annotation.expression?_error_iff.mpr hfault
          cases h.symm.trans herror
      cases found with
      | none =>
        simp only [hfault, Except.ok.injEq, reduceCtorEq, false_implies, implies_true, and_true,
          iff_true]
        exact succeeds_ok none
      | some e =>
        simp only [hfault, Except.ok.injEq, Option.some.injEq, forall_eq', true_and]
        exact ih e.1 e.2
  | case2 value index argument hwrapped ih =>
    rw [legible_argument hwrapped, ← ih, resolve_argument s hwrapped]
  | case3 value index hwrapped =>
    rw [resolve_missing s hwrapped]
    exact iff_of_true (succeeds_ok none) (legible_of_no_argument hwrapped)
  | case4 value index hwrapped ih =>
    rw [legible_subscripted hwrapped, ← ih, resolve_subscripted s hwrapped]
  | case5 left right ihl ihr =>
    rw [legible_union, ← ihl, ← ihr, resolve_union]
    cases h : s.resolve left with
    | error fault =>
      simp only [not_succeeds_error, false_and, iff_false]
      exact not_succeeds_error fault
    | ok type =>
      cases type with
      | none =>
        simp only [succeeds_ok, true_and, forall_const]
        rfl
      | some q =>
        simp only [succeeds_ok, Except.ok.injEq, reduceCtorEq, false_implies, and_true, iff_true]
        exact succeeds_ok (some q)
  | case6 e htext hsubscript hunion =>
    have hlegible : s.Legible e := by
      intro inner hinner
      exfalso
      cases hinner with
      | text | quoted => exact htext _ rfl
      | argument | subscripted => exact hsubscript _ _ rfl
      | left | right => exact hunion _ _ rfl
    rw [resolve] <;> try assumption
    simp only [hlegible, iff_true]
    exact succeeds_ok _

/-! ## Annotations that are looked at -/

/-- The parameters of a function that count: those of a method but the receiver. -/
def ownParameters (inClass : Bool) (f : FunctionHead) : List Parameter :=
  if inClass ∧ "staticmethod" ∉ decoratorNames f then (signatureParameters f.parameters).drop 1
  else signatureParameters f.parameters

/-- The annotations of a function that is drawn as such. -/
def functionHints (inClass : Bool) (f : FunctionHead) : List Expr :=
  f.returns.toList ++ (ownParameters inClass f).filterMap Parameter.hint

/-- The annotation of an attribute of the instance. -/
def attributeHints : Stmt → List Expr
  | .annotated target hint => if (instanceAttribute? target).isSome then [hint] else []
  | _ => []

/-- The annotations of a statement in the body of a class. -/
def memberHints : Stmt → List Expr
  | stmt@(.functionDef f _) =>
    match role f with
    | .getter => f.returns.toList
    | .setter => (f.parameters.positional[1]?.bind Parameter.hint).toList
    | .deleter => []
    | .method => functionHints true f ++ stmt.walk.flatMap attributeHints
  | .annotated (.name _) hint => [hint]
  | _ => []

/-- The annotations of a statement of a module. -/
def hints : Stmt → List Expr
  | .functionDef f _ => functionHints false f
  | .classDef _ _ body => body.flatMap memberHints
  | _ => []

/-! ## Members -/

theorem succeeds_resolve? {hint : Option Expr} :
    Succeeds (s.resolve? hint) ↔ ∀ e ∈ hint.toList, s.Legible e := by
  cases hint with
  | none => simp [resolve?]
  | some e => simpa [resolve?] using succeeds_resolve

theorem succeeds_resolveParameters {ps : List Parameter} :
    Succeeds (s.resolveParameters ps) ↔ ∀ e ∈ ps.filterMap Parameter.hint, s.Legible e := by
  induction ps with
  | nil => simp [resolveParameters]
  | cons p ps ih =>
    rw [resolveParameters, succeeds_bind fun _ => succeeds_bind_pure.trans ih, succeeds_resolve?]
    cases hp : p.hint <;> simp [hp]

theorem succeeds_method {parent : String} {inClass : Bool} {f : FunctionHead} :
    Succeeds (s.method parent inClass f) ↔ ∀ e ∈ functionHints inClass f, s.Legible e := by
  rw [method, succeeds_bind fun _ => succeeds_bind_pure.trans succeeds_resolveParameters,
    succeeds_resolve?, functionHints, List.forall_mem_append]
  rfl

theorem succeeds_instanceProperties {parent : String} {hint : Option Expr} {targets : List Expr} :
    Succeeds (s.instanceProperties parent hint targets) ↔
      ∀ e ∈ hint.toList, (∃ t ∈ targets, (instanceAttribute? t).isSome) → s.Legible e := by
  induction targets with
  | nil => simp [instanceProperties]
  | cons target targets ih =>
    rw [instanceProperties]
    cases htarget : instanceAttribute? target with
    | none =>
      rw [pure_bind, succeeds_bind_pure, ih]
      simp [htarget]
    | some attr =>
      simp only [pure_bind]
      rw [succeeds_bind fun _ => succeeds_bind_pure.trans ih, succeeds_resolve?]
      simp only [List.mem_cons, exists_eq_or_imp, htarget, Option.isSome_some, true_or,
        forall_const, and_iff_left_iff_imp]
      exact fun h e he _ => h e he

theorem succeeds_attributesOf {parent : String} {constructor : Bool} {stmts : List Stmt} :
    Succeeds (s.attributesOf parent constructor stmts) ↔
      ∀ e ∈ stmts.flatMap attributeHints, s.Legible e := by
  induction stmts with
  | nil => simp [attributesOf]
  | cons stmt stmts ih =>
    rw [attributesOf, succeeds_bind fun _ => succeeds_bind_pure.trans ih,
      succeeds_instanceProperties, List.flatMap_cons, List.forall_mem_append]
    refine and_congr_left fun _ => ?_
    cases stmt with
    | annotated target hint =>
      cases htarget : instanceAttribute? target <;>
        simp [instanceTargets, attributeHints, htarget]
    | assign targets => cases constructor <;> simp [instanceTargets, attributeHints]
    | _ => simp [instanceTargets, attributeHints]

theorem succeeds_contributions {parent : String} {stmt : Stmt} :
    Succeeds (s.contributions parent stmt) ↔ ∀ e ∈ memberHints stmt, s.Legible e := by
  cases stmt with
  | functionDef f body =>
    rw [contributions, functionContributions, memberHints]
    cases role f with
    | getter | setter =>
      exact succeeds_bind_pure.trans succeeds_resolve?
    | deleter => simp
    | method =>
      rw [List.forall_mem_append]
      refine (succeeds_bind fun _ => succeeds_bind_pure).trans ?_
      exact and_congr succeeds_method succeeds_attributesOf
  | annotated target hint =>
    cases target with
    | name id => simpa [contributions, memberHints] using succeeds_bind_pure.trans succeeds_resolve
    | _ => simp [contributions, memberHints]
  | _ => simp [contributions, memberHints]

theorem succeeds_addBody {c : Class} {body : List Stmt} :
    Succeeds (s.addBody c body) ↔ ∀ e ∈ body.flatMap memberHints, s.Legible e := by
  induction body generalizing c with
  | nil => simp [addBody]
  | cons stmt body ih =>
    rw [addBody, succeeds_bind fun _ => ih, succeeds_contributions, List.flatMap_cons,
      List.forall_mem_append]

/-- A superclass is looked up by its identifiers, never in a string. -/
theorem succeeds_resolveBase (bases : List Expr) : Succeeds (s.resolveBase bases) := by
  induction bases with
  | nil => simp [resolveBase]
  | cons base bases ih =>
    rw [resolveBase]
    by_cases hdrawn : isDrawnBase (baseTarget base) = true
    · have hchain : (baseTarget base).chain ≠ [] := by
        intro hnil
        rw [isDrawnBase, lastIdentifier, hnil] at hdrawn
        cases hdrawn
      simp only [hdrawn, if_true, resolve_of_chain s hchain]
      cases s.resolveChain (baseTarget base).chain with
      | none => exact ih
      | some q => exact succeeds_ok (some q)
    · simpa [hdrawn] using ih

end Scope

namespace ModuleAnalysis

theorem succeeds_newClass {s : Scope} {name : String} {bases : List Expr} {body : List Stmt} :
    Succeeds (newClass s name bases body).result ↔
      ∀ e ∈ body.flatMap Scope.memberHints, s.Legible e := by
  refine (Logged.succeeds_result_bind fun base _ => ?_).trans
    (and_iff_right (Scope.succeeds_resolveBase bases))
  exact Scope.succeeds_addBody

variable {a : ModuleAnalysis}

theorem succeeds_visit {stmt : Stmt} :
    Succeeds (a.visit stmt).result ↔ ∀ e ∈ Scope.hints stmt, a.scope.Legible e := by
  cases stmt with
  | functionDef f body => exact Logged.succeeds_result_bind_pure.trans Scope.succeeds_method
  | classDef name bases body => exact Logged.succeeds_result_bind_pure.trans succeeds_newClass
  | importFrom source aliases level =>
    rw [visit, Logged.succeeds_result_bind_pure]
    simp only [Scope.hints, List.not_mem_nil, false_implies, implies_true, iff_true]
    refine (Logged.succeeds_result_bind fun package _ => ?_).mpr ⟨?_, trivial⟩
    · rw [iff_true]
      cases source with
      | none => exact Logged.succeeds_result_pure _
      | some name => split <;> exact Logged.succeeds_result_pure _
    · exact ⟨_, a.scope.importSource_result source level⟩
  | _ => simp [visit, Scope.hints]

/-- The annotations of each statement are looked up in the scope behind the imports before it. -/
theorem succeeds_visitAll {stmts : List Stmt} :
    Succeeds (a.visitAll stmts).result ↔
      ∀ before stmt after, stmts = before ++ stmt :: after → ∀ e ∈ Scope.hints stmt,
        (a.scope.behind (before.flatMap Import.ofStmt)).Legible e := by
  induction stmts generalizing a with
  | nil => simp [visitAll]
  | cons first stmts ih =>
    have hrest : ∀ b, (a.visit first).result = .ok b → (Succeeds (b.visitAll stmts).result ↔
        ∀ before stmt after, stmts = before ++ stmt :: after → ∀ e ∈ Scope.hints stmt,
          (a.scope.behind ((first :: before).flatMap Import.ofStmt)).Legible e) := by
      intro b hb
      rw [ih, (visited_of_visit hb).scope]
      simp only [Scope.behind_behind, List.flatMap_cons]
    rw [visitAll, Logged.succeeds_result_bind hrest, succeeds_visit]
    constructor
    · rintro ⟨hfirst, hrest⟩ before stmt after h
      cases before with
      | nil =>
        obtain ⟨rfl, rfl⟩ := List.cons.inj h
        exact hfirst
      | cons stmt' before =>
        obtain ⟨rfl, htail⟩ := List.cons.inj h
        exact hrest before stmt after htail
    · intro h
      exact ⟨h [] first stmts rfl,
        fun before stmt after hstmts => h (first :: before) stmt after (by rw [hstmts]; rfl)⟩

end ModuleAnalysis

namespace ParsedSource

/-- The strings in annotations that the analysis of a module reads. -/
def Reads (p : ParsedSource) (value : List CodePoint) : Prop :=
  ∃ before stmt after, p.visited = before ++ stmt :: after ∧ ∃ e ∈ Scope.hints stmt,
    (p.scope.behind (before.flatMap Import.ofStmt)).Reads e value

/-- **A module is analysed just if no string in its annotations that is read has a fault.** -/
theorem succeeds_module {p : ParsedSource} :
    Succeeds p.module.result ↔ ∀ value, p.Reads value → fault? value = none := by
  refine (Logged.succeeds_result_bind_pure.trans ModuleAnalysis.succeeds_visitAll).trans ?_
  constructor
  · rintro h value ⟨before, stmt, after, hplace, e, he, hreads⟩
    exact h before stmt after hplace e he value hreads
  · intro h before stmt after hplace e he value hreads
    exact h value ⟨before, stmt, after, hplace, e, he, hreads⟩

theorem succeeds_of_no_hints {p : ParsedSource} (h : ∀ stmt ∈ p.visited, Scope.hints stmt = []) :
    Succeeds p.module.result := by
  refine succeeds_module.mpr ?_
  rintro value ⟨before, stmt, after, hplace, e, he, -⟩
  have hstmt : stmt ∈ p.visited := hplace ▸ List.mem_append_right _ List.mem_cons_self
  rw [h stmt hstmt] at he
  cases he

end ParsedSource

end ClassDiagram
