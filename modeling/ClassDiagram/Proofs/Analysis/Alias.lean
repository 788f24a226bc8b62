import ClassDiagram.Proofs.Analysis.Counterpart
import ClassDiagram.Proofs.Analysis.Insertion
import ClassDiagram.Proofs.Analysis.TypePosition

/-!
Other names for what is imported. `Expr.Renamed` puts a new alias in the place of an old one,
wherever it leads a chain of identifiers, in strings as well. Where one scope has a target under the
old alias and another has it under the new one (`Scope.Rebound`), an expression and its renamed form
have one type (`Rebound.resolve`), statements and their renamed forms find the same
(`Rebound.found`), and so do all statements that the alias reaches (`Rebound.foundAll`). So renaming
the alias of an import leaves the tree of a module as it is (`alias_renaming`), where the names by
themselves do not count.
-/

namespace ClassDiagram

open Source (Alias Expr FunctionHead Stmt)
open Text (CodePoint)
open Annotation (Spells fault? expression?_of_fault expression?_of_unread)
open Scope (argumentPlace? baseTarget isDrawnBase lastIdentifier subscriptArguments wrapped?)

/-! ## Expressions -/

/-- An expression with the name `b` in the place of `a`, wherever `a` is the first identifier of a
chain. No name is `b` before. Where `a` by itself stands before brackets, the two names are both
wrappers, both mappings or both neither. -/
inductive Source.Expr.Renamed (a b : String) : Expr → Expr → Prop
  | here : Renamed a b (.name a) (.name b)
  | name {id : String} (ha : id ≠ a) (hb : id ≠ b) : Renamed a b (.name id) (.name id)
  | member {value value' : Expr} (attr : String) (h : Renamed a b value value') :
    Renamed a b (.member value attr) (.member value' attr)
  | subscript {value value' index index' : Expr} (hvalue : Renamed a b value value')
      (hindex : Renamed a b index index')
      (hplace : value = .name a → argumentPlace? (.name a) = argumentPlace? (.name b)) :
    Renamed a b (.subscript value index) (.subscript value' index')
  | union {left left' right right' : Expr} (hleft : Renamed a b left left')
      (hright : Renamed a b right right') :
    Renamed a b (.union left right) (.union left' right')
  | tuple {items items' : List Expr} (h : List.Forall₂ (Renamed a b) items items') :
    Renamed a b (.tuple items) (.tuple items')
  | list {items items' : List Expr} (h : List.Forall₂ (Renamed a b) items items') :
    Renamed a b (.list items) (.list items')
  | starred {value value' : Expr} (h : Renamed a b value value') :
    Renamed a b (.starred value) (.starred value')
  | call {function function' : Expr} (h : Renamed a b function function') :
    Renamed a b (.call function) (.call function')
  /-- A string and one that spells the renamed expression. -/
  | text {value value' : List CodePoint} {e e' : Expr} (hspells : Spells value e)
      (hspells' : Spells value' e') (h : Renamed a b e e') :
    Renamed a b (.text value) (.text value')
  /-- A string that spells no expression. -/
  | unread {value : List CodePoint} (h : ∀ e, ¬ Spells value e) :
    Renamed a b (.text value) (.text value)
  | literal : Renamed a b .literal .literal
  | other : Renamed a b .other .other

theorem Source.Expr.eq_name_of_chain {e : Expr} {id : String} (h : e.chain = [id]) :
    e = .name id := by
  cases e with
  | name => exact congrArg Expr.name (List.singleton_inj.mp h)
  | member value attr =>
    rw [chain_member] at h
    split at h
    · cases h
    · rename_i hne
      have hlength := congrArg List.length h
      have hpos := List.length_pos_iff.mpr hne
      simp only [List.length_append, List.length_singleton] at hlength
      omega
  | _ => cases h

namespace Source.Expr.Renamed

variable {a b : String} {e e' : Expr}

/-- Chains differ in their first identifiers, and only if these are the old and the new name. -/
theorem chain (h : Renamed a b e e') :
    (∃ ids, e.chain = a :: ids ∧ e'.chain = b :: ids) ∨
      (e.chain = e'.chain ∧ ∀ id ∈ e.chain.head?, id ≠ a ∧ id ≠ b) := by
  induction e using Expr.chain.induct generalizing e' with
  | case1 id =>
    cases h with
    | here => exact .inl ⟨[], rfl, rfl⟩
    | name ha hb =>
      refine .inr ⟨rfl, fun id hid => ?_⟩
      obtain rfl := Option.some.inj hid
      exact ⟨ha, hb⟩
  | case2 value attr hnil ih | case3 value attr hcons ih =>
    cases h with
    | member attr h =>
      rw [chain_member, chain_member]
      rcases ih h with ⟨ids, hvalue, hvalue'⟩ | ⟨hvalue, hhead⟩
      · exact .inl ⟨ids ++ [attr], by simp [hvalue], by simp [hvalue']⟩
      · refine .inr ⟨by rw [hvalue], fun id hid => hhead id ?_⟩
        cases hvalues : value.chain with
        | nil => simp [hvalues] at hid
        | cons first rest => simpa [hvalues] using hid
  | case4 e hname hmember =>
    cases h with
    | here | name => exact absurd rfl (hname _)
    | member => exact absurd rfl (hmember _ _)
    | _ => exact .inr ⟨rfl, by simp [Expr.chain]⟩

theorem baseTarget (h : Renamed a b e e') : Renamed a b (baseTarget e) (Scope.baseTarget e') := by
  cases h with
  | subscript hvalue => exact hvalue
  | here => exact .here
  | name ha hb => exact .name ha hb
  | member attr h => exact .member attr h
  | union hleft hright => exact .union hleft hright
  | tuple h => exact .tuple h
  | list h => exact .list h
  | starred h => exact .starred h
  | call h => exact .call h
  | text hspells hspells' h => exact .text hspells hspells' h
  | unread h => exact .unread h
  | literal => exact .literal
  | other => exact .other

/-- The last identifiers differ only where the names stand by themselves. -/
theorem lastIdentifier (h : Renamed a b e e') :
    lastIdentifier e = Scope.lastIdentifier e' ∨ (e = .name a ∧ e' = .name b) := by
  rcases h.chain with ⟨ids, he, he'⟩ | ⟨he, -⟩
  · cases ids with
    | nil => exact .inr ⟨eq_name_of_chain he, eq_name_of_chain he'⟩
    | cons id ids =>
      rw [Scope.lastIdentifier, Scope.lastIdentifier, he, he', List.getLast?_cons_cons,
        List.getLast?_cons_cons]
      exact .inl rfl
  · rw [Scope.lastIdentifier, Scope.lastIdentifier, he]
    exact .inl rfl

theorem subscriptArguments (h : Renamed a b e e') :
    List.Forall₂ (Renamed a b) (subscriptArguments e) (Scope.subscriptArguments e') := by
  have hself := h
  cases h with
  | tuple h => exact h
  | _ => exact .cons hself .nil

/-- The arguments that count stand at one place. -/
theorem subscript_cases {value index : Expr} (h : Renamed a b (.subscript value index) e') :
    ∃ value' index', e' = .subscript value' index' ∧ Renamed a b value value' ∧
      Option.Rel (Option.Rel (Renamed a b)) (wrapped? value index) (wrapped? value' index') := by
  cases h with
  | @subscript _ value' _ index' hvalue hindex hplace =>
    have hplaces : argumentPlace? value = argumentPlace? value' := by
      rcases hvalue.lastIdentifier with hlast | ⟨rfl, rfl⟩
      · rw [argumentPlace?, argumentPlace?, hlast]
      · exact hplace rfl
    refine ⟨value', index', rfl, hvalue, ?_⟩
    rw [Scope.wrapped?_eq, Scope.wrapped?_eq, hplaces]
    cases argumentPlace? value' with
    | none => exact .none
    | some place => exact .some (rel_getElem? hindex.subscriptArguments place)

end Source.Expr.Renamed

/-! ## Scopes -/

namespace Scope

/-- In the second scope a new name stands for what an old one stands for in the first, and all other
names stand for the same. Neither is the name of a class of the module. -/
structure Rebound (a b target : String) (s t : Scope) : Prop where
  moduleName : s.moduleName = t.moduleName
  isPackage : s.isPackage = t.isPackage
  classes : s.classes = t.classes
  old : a ∉ s.classes
  new : b ∉ s.classes
  oldTarget : s.bindings.get? a = some target
  newTarget : t.bindings.get? b = some target
  others : ∀ id, id ≠ a → id ≠ b → s.bindings.get? id = t.bindings.get? id

theorem resolve_unread (s t : Scope) {value : List CodePoint} (h : ∀ e, ¬ Spells value e) :
    s.resolve (.text value) = t.resolve (.text value) := by
  cases hfault : fault? value with
  | some fault =>
    rw [resolve_text, resolve_text, expression?_of_fault hfault]
    rfl
  | none =>
    cases hread : Expr.ofText? (value.map Char.ofNat) with
    | some e => exact absurd ⟨hfault, hread⟩ (h e)
    | none =>
      rw [resolve_text, resolve_text, expression?_of_unread hfault hread]
      rfl

namespace Rebound

variable {a b target : String} {s t : Scope}

theorem resolveChain_cons (h : Rebound a b target s t) (ids : List String) :
    s.resolveChain (a :: ids) = t.resolveChain (b :: ids) := by
  have hnew : b ∉ t.classes := h.classes ▸ h.new
  cases ids with
  | nil => rw [resolveChain, resolveChain, if_neg h.old, if_neg hnew, h.oldTarget, h.newTarget]
  | cons => rw [resolveChain, resolveChain, h.oldTarget, h.newTarget]

/-- The chains of an expression and its renamed form stand for one type. -/
theorem resolveChain (h : Rebound a b target s t) {e e' : Expr} (hrenamed : e.Renamed a b e') :
    s.resolveChain e.chain = t.resolveChain e'.chain := by
  rcases hrenamed.chain with ⟨ids, he, he'⟩ | ⟨he, hhead⟩
  · rw [he, he', h.resolveChain_cons]
  · rw [← he]
    exact resolveChain_congr h.moduleName h.classes fun id hid =>
      h.others id (hhead id hid).1 (hhead id hid).2

/-- **An expression and its renamed form have one type.** -/
theorem resolve (h : Rebound a b target s t) : SameTypes (Expr.Renamed a b) s t := by
  intro e e' hrenamed
  induction e using Scope.resolve.induct generalizing e' with
  | case1 value ih =>
    cases hrenamed with
    | text hspells hspells' hrenamed =>
      rw [s.resolve_spelled hspells, t.resolve_spelled hspells']
      exact ih _ hspells.longestText_lt _ hrenamed
    | unread hunread => exact s.resolve_unread t hunread
  | case2 value index argument hwrapped ih =>
    obtain ⟨value', index', rfl, hvalue, hrel⟩ := hrenamed.subscript_cases
    rw [hwrapped] at hrel
    generalize hwrapped' : wrapped? value' index' = found at hrel
    obtain ⟨⟨hargument⟩⟩ := hrel
    rw [s.resolve_argument hwrapped, t.resolve_argument hwrapped', ih _ hargument]
  | case3 value index hwrapped =>
    obtain ⟨value', index', rfl, hvalue, hrel⟩ := hrenamed.subscript_cases
    rw [hwrapped] at hrel
    generalize hwrapped' : wrapped? value' index' = found at hrel
    obtain ⟨⟨⟩⟩ := hrel
    rw [s.resolve_missing hwrapped, t.resolve_missing hwrapped']
  | case4 value index hwrapped ih =>
    obtain ⟨value', index', rfl, hvalue, hrel⟩ := hrenamed.subscript_cases
    rw [hwrapped] at hrel
    generalize hwrapped' : wrapped? value' index' = found at hrel
    obtain ⟨⟩ := hrel
    rw [s.resolve_subscripted hwrapped, t.resolve_subscripted hwrapped', ih _ hvalue]
  | case5 left right ihl ihr =>
    cases hrenamed with
    | union hleft hright => rw [resolve_union, resolve_union, ihl _ hleft, ihr _ hright]
  | case6 e htext hsubscript hunion =>
    have hresolve' : t.resolve e' = .ok (t.resolveChain e'.chain) := by
      cases hrenamed with
      | text | unread => exact absurd rfl (htext _)
      | subscript => exact absurd rfl (hsubscript _ _)
      | union => exact absurd rfl (hunion _ _)
      | _ =>
        rw [Scope.resolve]
        · rfl
        all_goals simp
    rw [hresolve', ← h.resolveChain hrenamed, Scope.resolve]
    · rfl
    all_goals assumption

end Rebound

/-! ## Statements -/

/-- What has this dotted name is a construct of typing, and no type of a project. -/
def FromTyping (target : String) : Prop := (QualifiedName.ofDotted target).first ∈ typingModules

/-- A base and its renamed form. Where the alias by itself is the base, both names are drawn or
neither is, unless they stand for a construct of typing. -/
structure RenamedBase (a b target : String) (e e' : Expr) : Prop where
  renamed : e.Renamed a b e'
  drawn : baseTarget e = .name a →
    isDrawnBase (.name a) = isDrawnBase (.name b) ∨ FromTyping target

/-- A statement of a class body and its renamed form. Where the alias by itself is an annotation,
both names make an attribute static or neither does. -/
structure RenamedMember (a b : String) (x y : Stmt) : Prop where
  renamed : x.Alike (Expr.Renamed a b) y
  marked : ∀ target hint, x = .annotated target hint → baseTarget hint = .name a →
    isClassVariable (.name a) = isClassVariable (.name b)

/-- A statement of a module and its renamed form. -/
inductive RenamedStmt (a b target : String) : Stmt → Stmt → Prop
  | classDef (name : String) {bases bases' : List Expr} {body body' : List Stmt}
      (hbases : List.Forall₂ (RenamedBase a b target) bases bases')
      (hbody : List.Forall₂ (RenamedMember a b) body body') :
      RenamedStmt a b target (.classDef name bases body) (.classDef name bases' body')
  | plain {x y : Stmt} (hclass : ∀ name bases body, x ≠ .classDef name bases body)
      (h : x.Alike (Expr.Renamed a b) y) : RenamedStmt a b target x y

/-- No chain of identifiers that is looked up in a statement begins with the name. -/
def Unmentioned (name : String) (x : Stmt) : Prop :=
  ∀ e ∈ lookedUp x, ∀ ids, Mentions e ids → name ∉ ids.head?

/-- Statements with an alias renamed as far as it reaches: up to the next import that binds the old
name, or to the end. Behind that import, the new name is not looked up. -/
inductive Reached (s : Scope) (a b target : String) : List Stmt → List Stmt → Prop
  | nil : Reached s a b target [] []
  | renamed {x y : Stmt} {xs ys : List Stmt} (hxy : RenamedStmt a b target x y)
      (hold : ¬ s.Binds x a) (hnew : ¬ s.Binds x b) (h : Reached s a b target xs ys) :
      Reached s a b target (x :: xs) (y :: ys)
  | rebound {x : Stmt} {xs : List Stmt} (hold : s.Binds x a) (h : ∀ y ∈ xs, Unmentioned b y) :
      Reached s a b target (x :: xs) (x :: xs)

variable {a b target : String} {s t : Scope} {x y : Stmt}

theorem binds_congr (hmodule : s.moduleName = t.moduleName) (hpackage : s.isPackage = t.isPackage)
    {name : String} : s.Binds x name ↔ t.Binds x name := by
  simp only [Binds, Import.binding?_congr hmodule hpackage]

theorem RenamedStmt.imports (h : RenamedStmt a b target x y) :
    Import.ofStmt x = Import.ofStmt y := by
  cases h with
  | classDef => rfl
  | plain _ h => cases h <;> rfl

theorem RenamedMember.alike (h : RenamedMember a b x y) :
    x.Alike (Expr.Renamed a b) y ∧ MarkedAlike x y := by
  refine ⟨h.renamed, ?_⟩
  rintro target target' hint hint' rfl rfl
  cases h.renamed with
  | annotated _ hhint =>
    rcases hhint.baseTarget.lastIdentifier with hlast | ⟨hold, hnew⟩
    · rw [isClassVariable, isClassVariable, hlast]
    · have hmarked := h.marked target hint rfl hold
      rwa [isClassVariable, isClassVariable, hold, hnew]

theorem lookedUp_of_binds {name : String} (h : s.Binds x name) : lookedUp x = [] := by
  obtain ⟨i, hi, -⟩ := h
  cases x with
  | importModules | importFrom => rfl
  | _ => cases hi

namespace Rebound

/-- A base and its renamed form are drawn for one type. -/
theorem baseType (h : Rebound a b target s t) {e e' : Expr} (hbase : RenamedBase a b target e e') :
    s.baseType e = t.baseType e' := by
  have htarget := hbase.renamed.baseTarget
  have htypes := h.resolve _ _ htarget
  have hsame (heq : isDrawnBase (baseTarget e) = isDrawnBase (baseTarget e')) :
      s.baseType e = t.baseType e' := by
    rw [Scope.baseType, Scope.baseType, heq, htypes]
  rcases htarget.lastIdentifier with hlast | ⟨hold, hnew⟩
  · exact hsame (by rw [isDrawnBase, isDrawnBase, hlast])
  rcases hbase.drawn hold with heq | htyping
  · exact hsame (by rw [hold, hnew, heq])
  · -- only one of the names may be drawn, but what they stand for gives no type
    have hname : s.resolve (.name a) = .ok (s.resolveChain [a]) :=
      s.resolve_of_chain (List.cons_ne_nil a [])
    have hnone : s.resolve (baseTarget e) = .ok none := by
      rw [hold, hname, Scope.resolveChain, if_neg h.old, h.oldTarget]
      exact congrArg Except.ok (if_pos htyping)
    rw [Scope.baseType, Scope.baseType, ← htypes, hnone, ite_self, ite_self]

/-- **A statement and its renamed form find the same.** -/
theorem found (h : Rebound a b target s t) (hxy : RenamedStmt a b target x y) :
    s.found x = t.found y := by
  cases hxy with
  | classDef name hbases hbody =>
    rw [Scope.found, Scope.found, ModuleAnalysis.newClass_alike h.moduleName h.resolve name
      (hbases.imp fun _ _ => h.baseType) (hbody.imp fun _ _ => RenamedMember.alike)]
  | plain hclass halike =>
    cases halike with
    | classDef => exact absurd rfl (hclass _ _ _)
    | functionDef hhead =>
      rw [Scope.found, Scope.found, h.moduleName, method_alike h.resolve _ _ hhead]
    | importModules | importFrom =>
      refine found_congr h.moduleName h.isPackage fun e he => ?_
      cases he
    | _ => rfl

/-- Imports of other names leave both scopes as they are to each other. -/
theorem behind (h : Rebound a b target s t) (hold : ¬ s.Binds x a) (hnew : ¬ s.Binds x b) :
    Rebound a b target (s.behind (Import.ofStmt x)) (t.behind (Import.ofStmt x)) where
  moduleName := h.moduleName
  isPackage := h.isPackage
  classes := h.classes
  old := h.old
  new := h.new
  oldTarget := (get?_behind_of_unbound hold).trans h.oldTarget
  newTarget := by
    rw [binds_congr h.moduleName h.isPackage] at hnew
    exact (get?_behind_of_unbound hnew).trans h.newTarget
  others := fun id ha hb => get?_behind_congr h.moduleName h.isPackage (h.others id ha hb) _

/-- Behind another import of the old name, only what the new name stands for can differ. -/
theorem get?_behind (h : Rebound a b target s t) (hold : s.Binds x a) {id : String} (hid : id ≠ b) :
    (s.behind (Import.ofStmt x)).bindings.get? id
      = (t.behind (Import.ofStmt x)).bindings.get? id := by
  by_cases ha : id = a
  · obtain ⟨i, hi, later, hbinding⟩ := hold
    simp only [Scope.behind, bind, ← Import.binding?_congr h.moduleName h.isPackage]
    exact Dictionary.get?_putAll_of_mem (List.mem_filterMap.mpr ⟨i, hi, ha ▸ hbinding⟩)
  · exact get?_behind_congr h.moduleName h.isPackage (h.others id ha hid) _

end Rebound

/-- Scopes that differ in one name find the same in statements that do not look it up. -/
theorem foundAll_of_unmentioned (hmodule : s.moduleName = t.moduleName)
    (hpackage : s.isPackage = t.isPackage) (hclasses : s.classes = t.classes)
    (hget : ∀ id, id ≠ b → s.bindings.get? id = t.bindings.get? id) {stmts : List Stmt}
    (h : ∀ x ∈ stmts, Unmentioned b x) : s.foundAll stmts = t.foundAll stmts := by
  refine foundAll_congr hmodule hpackage ?_
  rintro before x after rfl e he
  refine agree_of_mentions fun ids hids => ?_
  refine resolveChain_congr (by exact hmodule) (by exact hclasses) fun id hid => ?_
  refine get?_behind_congr hmodule hpackage (hget id ?_) _
  rintro rfl
  exact h x (by simp) e he ids hids hid

namespace Rebound

theorem foundAll_unmentioned (h : Rebound a b target s t) (hold : s.Binds x a) {xs : List Stmt}
    (hxs : ∀ y ∈ xs, Unmentioned b y) :
    (s.behind (Import.ofStmt x)).foundAll xs = (t.behind (Import.ofStmt x)).foundAll xs :=
  foundAll_of_unmentioned (by exact h.moduleName) (by exact h.isPackage) (by exact h.classes)
    (fun _ hid => h.get?_behind hold hid) hxs

/-- **Statements that an alias reaches and their renamed forms find the same.** -/
theorem foundAll {r : Scope} {xs ys : List Stmt} (hreached : Reached r a b target xs ys)
    (hmodule : s.moduleName = r.moduleName) (hpackage : s.isPackage = r.isPackage)
    (h : Rebound a b target s t) : s.foundAll xs = t.foundAll ys := by
  induction hreached generalizing s t with
  | nil => rfl
  | renamed hxy hold hnew _ ih =>
    rw [← binds_congr hmodule hpackage] at hold hnew
    rw [foundAll_cons, foundAll_cons, h.found hxy, ← hxy.imports,
      ih (by exact hmodule) (by exact hpackage) (h.behind hold hnew)]
  | @rebound x xs hold hxs =>
    rw [← binds_congr hmodule hpackage] at hold
    have hfound : s.found x = t.found x := by
      refine found_congr h.moduleName h.isPackage fun e he => ?_
      rw [lookedUp_of_binds hold] at he
      cases he
    rw [foundAll_cons, foundAll_cons, hfound, h.foundAll_unmentioned hold hxs]

/-- What is behind the first of the statements. -/
theorem foundAll_tail {r : Scope} {xs ys : List Stmt}
    (hreached : Reached r a b target (x :: xs) (x :: ys))
    (hmodule : s.moduleName = r.moduleName) (hpackage : s.isPackage = r.isPackage)
    (h : Rebound a b target s t) :
    (s.behind (Import.ofStmt x)).foundAll xs = (t.behind (Import.ofStmt x)).foundAll ys := by
  cases hreached with
  | renamed hxy hold hnew hrest =>
    rw [← binds_congr hmodule hpackage] at hold hnew
    exact foundAll hrest hmodule hpackage (h.behind hold hnew)
  | rebound hold hxs =>
    rw [← binds_congr hmodule hpackage] at hold
    exact h.foundAll_unmentioned hold hxs

end Rebound

/-! ## Imports -/

/-- Statements with the alias of one import renamed. What the statement of the import binds behind
the alias counts as a statement of its own. -/
inductive Aliased (s : Scope) (a b : String) : List Stmt → List Stmt → Prop
  /-- The import is `import name as a`, between others. -/
  | modules (front : List Alias) {back : List Alias} {name : String} {xs ys : List Stmt}
      (h : Reached s a b name (.importModules back :: xs) (.importModules back :: ys)) :
      Aliased s a b (.importModules (front ++ ⟨name, some a⟩ :: back) :: xs)
        (.importModules (front ++ ⟨name, some b⟩ :: back) :: ys)
  /-- The import is `from source import name as a`, between others. -/
  | members (front : List Alias) {source : Option String} {level : Nat} {back : List Alias}
      {name : String} {xs ys : List Stmt} (hname : name ≠ "*") (hsource : source ≠ some "")
      (h : Reached s a b (within (s.sourceName source level) name)
        (.importFrom source back level :: xs) (.importFrom source back level :: ys)) :
      Aliased s a b (.importFrom source (front ++ ⟨name, some a⟩ :: back) level :: xs)
        (.importFrom source (front ++ ⟨name, some b⟩ :: back) level :: ys)
  | later (x : Stmt) {xs ys : List Stmt} (h : Aliased s a b xs ys) :
    Aliased s a b (x :: xs) (x :: ys)

/-- Behind an import with another alias, the alias is rebound. -/
theorem rebound_of_binding? (hold : a ∉ s.classes) (hnew : b ∉ s.classes) {i j : Import}
    (hi : i.binding? s = some (a, target)) (hj : j.binding? s = some (b, target))
    (front : List Import) :
    Rebound a b target (s.behind (front ++ [i])) (s.behind (front ++ [j])) := by
  have hget : ∀ (k : Import) (name id : String), k.binding? s = some (name, target) →
      (s.behind (front ++ [k])).bindings.get? id =
        if id = name then some target else (s.behind front).bindings.get? id := by
    intro k name id hk
    have hbindings : (s.behind (front ++ [k])).bindings =
        (s.behind front).bindings.put name target := by
      simp only [behind, bind, List.filterMap_append, Dictionary.putAll_append]
      rw [List.filterMap_cons_some hk]
      rfl
    rw [hbindings, Dictionary.get?_put]
  refine ⟨rfl, rfl, rfl, hold, hnew, ?_, ?_, fun id ha hb => ?_⟩
  · rw [hget i a a hi, if_pos rfl]
  · rw [hget j b b hj, if_pos rfl]
  · rw [hget i a id hi, hget j b id hj, if_neg ha, if_neg hb]

theorem foundAll_of_alias {r : Scope} {u : Stmt} {xs ys : List Stmt} {front : List Import}
    {i j : Import} (hx : Import.ofStmt x = (front ++ [i]) ++ Import.ofStmt u)
    (hy : Import.ofStmt y = (front ++ [j]) ++ Import.ofStmt u) (hfound : s.found x = s.found y)
    (hi : i.binding? s = some (a, target)) (hj : j.binding? s = some (b, target))
    (hreached : Reached r a b target (u :: xs) (u :: ys)) (hmodule : s.moduleName = r.moduleName)
    (hpackage : s.isPackage = r.isPackage) (hold : a ∉ s.classes) (hnew : b ∉ s.classes) :
    s.foundAll (x :: xs) = s.foundAll (y :: ys) := by
  have hrebound := rebound_of_binding? hold hnew hi hj front
  have htail := hrebound.foundAll_tail hreached (by exact hmodule) (by exact hpackage)
  rw [behind_behind, behind_behind] at htail
  rw [foundAll_cons, foundAll_cons, hfound, hx, hy, htail]

theorem binding?_named (s : Scope) {source : Option String} (level : Nat) {name : String}
    (hname : name ≠ "*") (hsource : source ≠ some "") (id : String) :
    Import.binding? s (.member source level ⟨name, some id⟩) =
      some (id, within (s.sourceName source level) name) := by
  refine if_neg ?_
  rintro (hstar | ⟨hempty, hnone⟩)
  · exact hname hstar
  · obtain ⟨source, rfl⟩ := Option.ne_none_iff_exists'.mp hnone
    exact s.sourceName_ne_empty (fun h => hsource (congrArg some h)) level hempty

/-- Statements with the alias of one import renamed find what they found before. -/
theorem foundAll_of_aliased {r : Scope} {xs ys : List Stmt} (h : Aliased r a b xs ys)
    (hmodule : s.moduleName = r.moduleName) (hpackage : s.isPackage = r.isPackage)
    (hold : a ∉ s.classes) (hnew : b ∉ s.classes) : s.foundAll xs = s.foundAll ys := by
  induction h generalizing s with
  | later x _ ih =>
    rw [foundAll_cons, foundAll_cons, ih (by exact hmodule) (by exact hpackage) (by exact hold)
      (by exact hnew)]
  | @modules front back name xs ys hreached =>
    have hsplit : ∀ id, Import.ofStmt (.importModules (front ++ ⟨name, some id⟩ :: back)) =
        (front.map Import.module ++ [.module ⟨name, some id⟩]) ++
          Import.ofStmt (.importModules back) := by
      simp [Import.ofStmt]
    refine foundAll_of_alias (hsplit a) (hsplit b) ?_ rfl rfl hreached hmodule hpackage hold hnew
    simp [found, imported, importModules]
  | @members front source level back name xs ys hname hsource hreached =>
    have hsplit : ∀ id,
        Import.ofStmt (.importFrom source (front ++ ⟨name, some id⟩ :: back) level) =
          (front.map (Import.member source level) ++ [.member source level ⟨name, some id⟩]) ++
            Import.ofStmt (.importFrom source back level) := by
      simp [Import.ofStmt]
    have hbinding := binding?_named s level hname hsource
    rw [sourceName_congr hmodule hpackage] at hbinding
    refine foundAll_of_alias (hsplit a) (hsplit b) ?_ (hbinding a) (hbinding b) hreached hmodule
      hpackage hold hnew
    rw [found, found, imported, imported, dependencies_memberEffect, dependencies_memberEffect]
    cases source <;> simp [importTargets, hname]

end Scope

/-! ## Modules -/

/-- Modules that differ in the alias of an import. The old and the new name are no classes that the
module knows from the start. -/
structure ParsedSource.Aliased (a b : String) (p q : ParsedSource) : Prop where
  name : q.name = p.name
  isPackage : q.isPackage = p.isPackage
  classes : ModuleAnalysis.classNames q.stmts = ModuleAnalysis.classNames p.stmts
  old : a ∉ ModuleAnalysis.classNames p.stmts
  new : b ∉ ModuleAnalysis.classNames p.stmts
  visited : p.scope.Aliased a b p.visited q.visited

/-- **Aliases do not show.** Renaming the alias of an import, in the import and in all chains of
identifiers that it leads as far as it reaches, leaves the tree of the module as it is. A place
where the name by itself counts, as that of a wrapper, a mark or a base that is not drawn, asks for
both names alike (`Expr.Renamed`, `Scope.RenamedMember`, `Scope.RenamedBase`). -/
theorem alias_renaming {a b : String} {p q : ParsedSource} (h : p.Aliased a b q) :
    q.module.result = p.module.result := by
  have hscope : q.scope = p.scope := by
    rw [ParsedSource.scope, ParsedSource.scope, h.name, h.isPackage, h.classes]
  have hbare : q.bare = p.bare := by
    simp only [ParsedSource.bare, ModuleAnalysis.start, h.name]
  rw [ParsedSource.result_module, ParsedSource.result_module, hscope, hbare,
    Scope.foundAll_of_aliased h.visited rfl rfl h.old h.new]

/-- A module in which one name of the middle import has this alias. The other imports have an alias
of their own. -/
def woods (id : String) : ParsedSource where
  name := "woods"
  stmts := [
    .importModules [⟨"fungi", some "f"⟩],
    .classDef "Morel" [.member (.name "f") "Spore"] [],
    .importFrom (some "forest") [⟨"Tree", some id⟩, ⟨"Soil", none⟩] 0,
    .classDef "Oak" [.name id] [
      .annotated (.name "twin") (.text (id.toList.map Char.toNat)),
      .annotated (.name "roots") (.subscript (.name "List") (.member (.name id) "Root"))],
    .importModules [⟨"fish", some "f"⟩],
    .classDef "Pike" [.member (.name "f") "Fish"] []]

theorem spells_old : Spells ("f".toList.map Char.toNat) (.name "f") := ⟨by decide, by cbv⟩

theorem spells_new : Spells ("g".toList.map Char.toNat) (.name "g") := ⟨by decide, by cbv⟩

theorem renamed_oak {target : String} : Scope.RenamedStmt "f" "g" target
    (.classDef "Oak" [.name "f"] [
      .annotated (.name "twin") (.text ("f".toList.map Char.toNat)),
      .annotated (.name "roots") (.subscript (.name "List") (.member (.name "f") "Root"))])
    (.classDef "Oak" [.name "g"] [
      .annotated (.name "twin") (.text ("g".toList.map Char.toNat)),
      .annotated (.name "roots") (.subscript (.name "List") (.member (.name "g") "Root"))]) := by
  have hbase : Scope.RenamedBase "f" "g" target (.name "f") (.name "g") :=
    ⟨.here, fun _ => .inl rfl⟩
  have hmember : ∀ {id : String} {e e' : Expr}, e.Renamed "f" "g" e' →
      Scope.RenamedMember "f" "g" (.annotated (.name id) e) (.annotated (.name id) e') :=
    fun h => ⟨.annotated _ h, fun _ _ _ _ => rfl⟩
  have htwin := Expr.Renamed.text spells_old spells_new .here
  have hroots : Expr.Renamed "f" "g" (.subscript (.name "List") (.member (.name "f") "Root"))
      (.subscript (.name "List") (.member (.name "g") "Root")) :=
    .subscript (.name (by decide) (by decide)) (.member _ .here) fun _ => rfl
  exact .classDef "Oak" (.cons hbase .nil) (.cons (hmember htwin) (.cons (hmember hroots) .nil))

theorem woods_aliased : (woods "f").Aliased "f" "g" (woods "g") := by
  have hsoil : ∀ {name},
      (woods "f").scope.Binds (.importFrom (some "forest") [⟨"Soil", none⟩] 0) name →
      name = "Soil" := by
    rintro name ⟨i, hi, target, hbinding⟩
    rw [List.mem_singleton.mp hi] at hbinding
    exact (congrArg Prod.fst (Option.some.inj hbinding)).symm
  have hoak : ∀ {name bases body}, ¬ (woods "f").scope.Binds (.classDef "Oak" bases body) name := by
    rintro name bases body ⟨i, ⟨⟩, -⟩
  refine ⟨rfl, rfl, rfl, by decide, by decide,
    .later _ (.later _ (.members [] (by decide) (by decide) ?_))⟩
  refine .renamed (.plain (by simp) (.importFrom ..)) ?old ?new
    (.renamed renamed_oak hoak hoak (.rebound ?fish ?pike))
  case old => exact fun h => absurd (hsoil h) (by decide)
  case new => exact fun h => absurd (hsoil h) (by decide)
  case fish => exact ⟨_, List.mem_singleton_self _, "fish", rfl⟩
  case pike =>
    rintro y (_ | ⟨_, ⟨⟩⟩) e he ids hids
    rw [List.mem_singleton.mp he] at hids
    cases hids
    decide

theorem alias_renaming_woods :
    (woods "f").Aliased "f" "g" (woods "g") ∧
      (woods "g").module.result = (woods "f").module.result ∧
      ((woods "g").module.result.map fun m => m.classes.map Class.base) = .ok [
        some (.pair "fungi" "Spore"), some (.pair "forest" "Tree"), some (.pair "fish" "Fish")] :=
  ⟨woods_aliased, alias_renaming woods_aliased, by cbv⟩

/-- A module that imports something under an alias, with these statements behind the import. -/
def importing (source thing id : String) (stmts : List Stmt) : ParsedSource where
  name := "hall"
  stmts := .importFrom (some source) [⟨thing, some id⟩] 0 :: stmts

def wrapperAs (id : String) : ParsedSource := importing "typing" "Optional" id [
  .classDef "Room" [] [.annotated (.name "table") (.subscript (.name id) (.name "Desk"))]]

def markAs (id : String) : ParsedSource := importing "typing" "ClassVar" id [
  .classDef "Room" [] [.annotated (.name "rate") (.name id)]]

def baseAs (id : String) : ParsedSource := importing "zoo" "Animal" id [
  .classDef "Cat" [.name id] []]

/-- The alias can be the name of a class of the module. -/
def besideClassAs (id : String) : ParsedSource := importing "zoo" "Animal" id [
  .classDef "Cat" [] [], .classDef "Lion" [.name id] []]

/-- The alias is used in front of the import. -/
def earlyAs (id : String) : ParsedSource where
  name := "hall"
  stmts := [.classDef "Cat" [.name id] [], .importFrom (some "zoo") [⟨"Animal", some id⟩] 0]

theorem result_ne_of_view {α : Type} (view : Module → α) {p q : ParsedSource} {x y : α}
    (hp : p.module.result.map view = .ok x) (hq : q.module.result.map view = .ok y) (h : x ≠ y) :
    p.module.result ≠ q.module.result := by
  intro he
  rw [he, hq] at hp
  exact h (Except.ok.inj hp).symm

/-- The import stands in a function. -/
def localAs (id : String) : ParsedSource where
  name := "hall"
  stmts := [
    .functionDef { name := "feed", parameters := {}, returns := none, decorators := [] }
      [.importFrom (some "zoo") [⟨"Animal", some id⟩] 0],
    .classDef "Cat" [.name id] []]

/-- Aliases that show: those of a wrapper and of the mark of class attributes, one that is the name
of a base that is not drawn, one that is the name of a class of the module, one that is used in
front of its import, and one whose import stands in a function. -/
theorem aliases_show :
    (wrapperAs "Maybe").module.result ≠ (wrapperAs "Optional").module.result ∧
    (markAs "Fixed").module.result ≠ (markAs "ClassVar").module.result ∧
    (baseAs "object").module.result ≠ (baseAs "Beast").module.result ∧
    (besideClassAs "Cat").module.result ≠ (besideClassAs "Beast").module.result ∧
    (earlyAs "Beast").module.result ≠ (earlyAs "Brute").module.result ∧
    (localAs "Beast").module.result ≠ (localAs "Brute").module.result := by
  refine ⟨?wrapper, ?mark, ?base, ?known, ?early, ?inner⟩
  case wrapper =>
    exact result_ne_of_view (fun m => m.classes.map Class.dependencies) (x := [[]])
      (y := [[.single "Desk"]]) (by cbv) (by cbv) (by decide)
  case mark =>
    exact result_ne_of_view (fun m => m.classes.map fun c => c.properties.map (·.header.lifetime))
      (x := [[.perInstance]]) (y := [[.static]]) (by cbv) (by cbv) (by decide)
  case base =>
    exact result_ne_of_view (fun m => m.classes.map Class.base) (x := [none])
      (y := [some (.pair "zoo" "Animal")]) (by cbv) (by cbv) (by decide)
  case known =>
    exact result_ne_of_view (fun m => m.classes.map Class.base)
      (x := [none, some (.pair "hall" "Cat")]) (y := [none, some (.pair "zoo" "Animal")])
      (by cbv) (by cbv) (by decide)
  case early | inner =>
    exact result_ne_of_view (fun m => m.classes.map Class.base) (x := [some (.single "Beast")])
      (y := [some (.single "Brute")]) (by cbv) (by cbv) (by decide)

end ClassDiagram
