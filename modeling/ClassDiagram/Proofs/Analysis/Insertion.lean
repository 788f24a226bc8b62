import ClassDiagram.Proofs.Analysis.Findings

/-!
Imports that are put into a module. Behind an import, a name that it does not bind stands for what
it stood for (`get?_behind_of_unbound`). So an import statement that binds no name by which a base
or an annotation is looked up changes no class and no function, wherever it is put, and only adds
its entries at its place (`unrelated_import_apart`).
-/

namespace ClassDiagram

open Source (Expr Stmt)

/-! ## Places for a statement -/

namespace Source.Stmt

/-- A statement put somewhere into a module: in front of a statement, behind all of them, or in the
same way into a compound statement. -/
inductive Inserted (x : Stmt) : List Stmt → List Stmt → Prop
  | here (stmts : List Stmt) : Inserted x stmts (x :: stmts)
  | behind (stmt : Stmt) {stmts more : List Stmt} (h : Inserted x stmts more) :
    Inserted x (stmt :: stmts) (stmt :: more)
  | inside {parts more : List Stmt} (after : List Stmt) (h : Inserted x parts more) :
    Inserted x (.compound parts :: after) (.compound more :: after)

inductive IsImport : Stmt → Prop
  | importModules (aliases : List Alias) : IsImport (.importModules aliases)
  | importFrom (source : Option String) (aliases : List Alias) (level : Nat) :
    IsImport (.importFrom source aliases level)

variable {x : Stmt} {stmts more : List Stmt}

theorem IsImport.modular (h : x.IsImport) : x.modular = [x] := by
  cases h <;> rfl

/-- In the order of the visit, the statement stands between two parts of the module. -/
theorem Inserted.modularList (h : Inserted x stmts more) (hx : x.modular = [x]) :
    ∃ before after, modular.modularList stmts = before ++ after ∧
      modular.modularList more = before ++ x :: after := by
  induction h with
  | here stmts =>
    refine ⟨[], modular.modularList stmts, rfl, ?_⟩
    rw [modular.modularList, hx]
    rfl
  | behind stmt h ih =>
    obtain ⟨before, after, hstmts, hmore⟩ := ih
    refine ⟨stmt.modular ++ before, after, ?_, ?_⟩
    · rw [modular.modularList, hstmts, List.append_assoc]
    · rw [modular.modularList, hmore, List.append_assoc]
  | inside rest h ih =>
    obtain ⟨before, after, hparts, hmore⟩ := ih
    refine ⟨before, after ++ modular.modularList rest, ?_, ?_⟩
    · rw [modular.modularList, Stmt.modular, hparts, List.append_assoc]
    · rw [modular.modularList, Stmt.modular, hmore, List.append_assoc]
      rfl

/-- An import is no class that is known from the start. -/
theorem Inserted.classNames_eq (h : Inserted x stmts more) (hx : x.IsImport) :
    ModuleAnalysis.classNames more = ModuleAnalysis.classNames stmts := by
  induction h with
  | here => cases hx <;> rfl
  | behind stmt h ih =>
    rw [ModuleAnalysis.classNames, ModuleAnalysis.classNames] at ih
    rw [ModuleAnalysis.classNames, ModuleAnalysis.classNames, List.filterMap_cons,
      List.filterMap_cons, ih]
  | inside => rfl

end Source.Stmt

namespace Scope

variable {s t : Scope}

/-- An import statement binds a name. -/
def Binds (s : Scope) (x : Stmt) (name : String) : Prop :=
  ∃ i ∈ Import.ofStmt x, ∃ target, i.binding? s = some (name, target)

/-- Behind imports, a name that they do not bind stands for what it stood for. -/
theorem get?_behind_of_unbound {x : Stmt} {name : String} (h : ¬ s.Binds x name) :
    (s.behind (Import.ofStmt x)).bindings.get? name = s.bindings.get? name := by
  refine Dictionary.get?_putAll_of_not_mem fun target hbinding => h ?_
  obtain ⟨i, hi, hbinding⟩ := List.mem_filterMap.mp hbinding
  exact ⟨i, hi, target, hbinding⟩

/-- Scopes in which a name stands for the same do so behind the same imports. -/
theorem get?_behind_congr (hmodule : s.moduleName = t.moduleName)
    (hpackage : s.isPackage = t.isPackage) {name : String}
    (h : s.bindings.get? name = t.bindings.get? name) (imports : List Import) :
    (s.behind imports).bindings.get? name = (t.behind imports).bindings.get? name := by
  simp only [behind, bind, Import.binding?_congr hmodule hpackage]
  exact Dictionary.get?_putAll_congr h _

/-- Only what its first identifier stands for counts for a chain. -/
theorem resolveChain_congr (hmodule : s.moduleName = t.moduleName)
    (hclasses : s.classes = t.classes) {ids : List String}
    (h : ∀ id ∈ ids.head?, s.bindings.get? id = t.bindings.get? id) :
    s.resolveChain ids = t.resolveChain ids := by
  match ids with
  | [] => rfl
  | [id] => rw [resolveChain, resolveChain, hmodule, hclasses, h id rfl]
  | head :: second :: rest => rw [resolveChain, resolveChain, h head rfl]

/-- The chains in an expression begin with none of the names that a statement binds. -/
def Unrelated (s : Scope) (x : Stmt) (e : Expr) : Prop :=
  ∀ ids, Mentions e ids → ∀ id ∈ ids.head?, ¬ s.Binds x id

/-- Statements find the same behind an import that is unrelated to what is looked up in them. -/
theorem foundAll_behind {x : Stmt} {stmts : List Stmt}
    (h : ∀ stmt ∈ stmts, ∀ e ∈ lookedUp stmt, s.Unrelated x e) :
    (s.behind (Import.ofStmt x)).foundAll stmts = s.foundAll stmts := by
  refine foundAll_congr (by rfl) (by rfl) ?_
  rintro before stmt after rfl e he
  refine agree_of_mentions fun ids hids => ?_
  refine resolveChain_congr (by rfl) (by rfl) fun id hid => ?_
  refine get?_behind_congr (by rfl) (by rfl) (get?_behind_of_unbound ?_) _
  exact h stmt (by simp) e he ids hids id hid

/-- What is unrelated to a statement is so behind imports. -/
theorem Unrelated.behind {x : Stmt} {e : Expr} (h : s.Unrelated x e) (imports : List Import) :
    (s.behind imports).Unrelated x e := by
  rintro ids hids id hid ⟨i, hi, target, hbinding⟩
  rw [i.binding?_congr (t := s) (by rfl) (by rfl)] at hbinding
  exact h ids hids id hid ⟨i, hi, target, hbinding⟩

theorem found_import {x : Stmt} (hx : x.IsImport) :
    s.found x = .ok { dependencies := s.importEntries x } := by
  cases hx with
  | importModules => rfl
  | importFrom =>
    rw [found, imported, dependencies_memberEffect]
    rfl

end Scope

/-! ## Modules -/

/-- **Unrelated imports do not interfere.** An import statement that binds none of the names by
which bases and annotations are looked up can be put anywhere into a module. The classes, the
functions and all else stay as they are, and the entries of the statement stand between those of the
statements before it and those of the statements behind it. -/
theorem unrelated_import_apart {p : ParsedSource} {m : Module} {x : Stmt} {more : List Stmt}
    (h : p.module.result = .ok m) (hx : x.IsImport) (hinserted : Stmt.Inserted x p.stmts more)
    (hunrelated : ∀ stmt ∈ p.visited, ∀ e ∈ Scope.lookedUp stmt, p.scope.Unrelated x e) :
    ∃ before after, p.visited = before ++ after ∧
      ({ p with stmts := more } : ParsedSource).visited = before ++ x :: after ∧
      m.dependencies = before.flatMap p.scope.importEntries ++
        after.flatMap p.scope.importEntries ∧
      ({ p with stmts := more } : ParsedSource).module.result = .ok { m with
        dependencies := before.flatMap p.scope.importEntries ++ (p.scope.importEntries x ++
          after.flatMap p.scope.importEntries) } := by
  obtain ⟨before, after, hvisited, hvisited'⟩ := hinserted.modularList hx.modular
  change p.visited = before ++ after at hvisited
  have hscope : ({ p with stmts := more } : ParsedSource).scope = p.scope := by
    simp only [ParsedSource.scope, hinserted.classNames_eq hx]
  obtain ⟨f, hf, rfl⟩ := ParsedSource.module_eq_ok_iff.mp h
  rw [hvisited, Scope.foundAll_append] at hf
  obtain ⟨first, hfirst, hf⟩ := except_bind_eq_ok.mp hf
  obtain ⟨last, hlast, hf⟩ := except_bind_eq_ok.mp hf
  cases hf
  -- the statements behind the import find what they found without it
  have hbehind : ((p.scope.behind (before.flatMap Import.ofStmt)).behind (Import.ofStmt x)).foundAll
      after = (p.scope.behind (before.flatMap Import.ofStmt)).foundAll after :=
    Scope.foundAll_behind fun stmt hstmt e he =>
      (hunrelated stmt (hvisited ▸ List.mem_append_right _ hstmt) e he).behind _
  have hmore : ({ p with stmts := more } : ParsedSource).scope.foundAll
      ({ p with stmts := more } : ParsedSource).visited =
        .ok (first ++ ({ dependencies := p.scope.importEntries x } ++ last)) := by
    rw [hscope, ParsedSource.visited, hvisited', Scope.foundAll_append, hfirst]
    show Scope.foundAll _ (x :: after) >>= _ = _
    rw [Scope.foundAll_cons, Scope.found_import hx, hbehind]
    show (Scope.foundAll _ after >>= _) >>= _ = _
    rw [hlast]
    rfl
  have hentries : first.dependencies = before.flatMap p.scope.importEntries :=
    Scope.dependencies_of_foundAll hfirst
  have hentries' : last.dependencies = after.flatMap p.scope.importEntries := by
    rw [Scope.dependencies_of_foundAll hlast, Scope.importEntries_behind]
  refine ⟨before, after, hvisited, hvisited', ?_, ?_⟩
  · rw [← hentries, ← hentries']
    rfl
  · refine ParsedSource.module_eq_ok_iff.mpr ⟨_, hmore, ?_⟩
    rw [← hentries, ← hentries']
    rfl

/-- A module with a class in a compound statement. -/
def larder : ParsedSource where
  name := "larder"
  stmts := [
    .importFrom (some "farm") [⟨"Jar", none⟩] 0,
    .compound [.classDef "Jam" [.name "Jar"]
      [.annotated (.name "fruit") (.member (.name "orchard") "Plum")]]]

/-- An import that has nothing to do with the class. -/
def unrelated : Stmt := .importFrom (some "press") [⟨"Oil", none⟩] 0

theorem larder_unrelated :
    ∀ stmt ∈ larder.visited, ∀ e ∈ Scope.lookedUp stmt, larder.scope.Unrelated unrelated e := by
  have hbinds : ∀ {id}, larder.scope.Binds unrelated id → id = "Oil" := by
    rintro id ⟨i, hi, target, hbinding⟩
    rw [List.mem_singleton.mp hi] at hbinding
    cases hbinding
    rfl
  rintro stmt (_ | ⟨_, _ | ⟨_, ⟨⟩⟩⟩) e he ids hids id hid hbound
  · cases he
  · obtain rfl := hbinds hbound
    rcases List.mem_pair.mp he with rfl | rfl
    · cases hids
      exact absurd hid (by decide)
    · cases hids
      exact absurd hid (by decide)

theorem larder_analysed : Succeeds larder.module.result := by
  refine ParsedSource.succeeds_module.mpr ?_
  rintro value ⟨before, stmt, after, hplace, e, he, hreads⟩
  have hstmt : stmt ∈ larder.visited := hplace ▸ List.mem_append_right _ List.mem_cons_self
  rcases hstmt with _ | ⟨_, _ | ⟨_, ⟨⟩⟩⟩
  · cases he
  · obtain rfl := List.mem_singleton.mp he
    cases hreads

/-- The same module, with the other import in front of the class. -/
def pressed : ParsedSource :=
  { larder with stmts := [
    .importFrom (some "farm") [⟨"Jar", none⟩] 0,
    .compound [unrelated, .classDef "Jam" [.name "Jar"]
      [.annotated (.name "fruit") (.member (.name "orchard") "Plum")]]] }

theorem unrelated_import_apart_larder :
    ∃ m n, larder.module.result = .ok m ∧ pressed.module.result = .ok n ∧
      n = { m with dependencies := n.dependencies } ∧
      m.dependencyNames = ["farm"] ∧ n.dependencyNames = ["farm", "press"] := by
  obtain ⟨m, hm⟩ := larder_analysed
  have hinserted : Stmt.Inserted unrelated larder.stmts pressed.stmts :=
    .behind _ (.inside [] (.here _))
  obtain ⟨before, after, hvisited, hvisited', hdependencies, hn⟩ :=
    unrelated_import_apart hm (.importFrom ..) hinserted larder_unrelated
  rw [← List.flatMap_append, ← hvisited] at hdependencies
  rw [← List.flatMap_cons, ← List.flatMap_append, ← hvisited'] at hn
  refine ⟨m, _, hm, hn, rfl, ?_, rfl⟩
  rw [Module.dependencyNames, hdependencies]
  rfl

end ClassDiagram
