import ClassDiagram.Analysis.ModuleText
import ClassDiagram.Proofs.Analysis.Imports

/-!
What the visit of statements leaves behind. `Visited` lists what one statement can do; from it the
scope behind statements is the one behind their imports (`visitAll_scope`), the module keeps its
header and the classes that it has, and each class statement adds the class that it defines in the
scope at its place (`mem_classes_of_visitAll`). `ParsedSource` is what the analysis of a whole
module starts from.
-/

namespace ClassDiagram

open Source (Expr Stmt)

namespace Source.Stmt

/-- A statement that the analysis of a module passes over. -/
def isSkipped : Stmt → Bool
  | annotated _ _ | assign _ | compound _ | other => true
  | _ => false

theorem modularList_eq_flatMap (stmts : List Stmt) :
    modular.modularList stmts = stmts.flatMap modular := by
  induction stmts with
  | nil => rfl
  | cons stmt stmts ih => rw [modular.modularList, ih, List.flatMap_cons]

/-- A class statement of a module belongs to the module itself. -/
theorem classDef_mem_modularList {stmts : List Stmt} {name : String} {bases : List Expr}
    {body : List Stmt} (h : classDef name bases body ∈ stmts) :
    classDef name bases body ∈ modular.modularList stmts := by
  rw [modularList_eq_flatMap]
  exact List.mem_flatMap.mpr ⟨_, h, List.mem_singleton_self _⟩

end Source.Stmt

namespace Scope

theorem addBody_ok {s : Scope} {c d : Class} {body : List Stmt} (h : s.addBody c body = .ok d) :
    d.header = c.header ∧ d.base = c.base := by
  have hadd : ∀ (new : List Contribution) (c : Class),
      (new.foldl Contribution.addTo c).header = c.header ∧
        (new.foldl Contribution.addTo c).base = c.base := by
    intro new
    induction new with
    | nil => exact fun c => ⟨rfl, rfl⟩
    | cons x new ih =>
      intro c
      rw [List.foldl_cons, (ih _).1, (ih _).2]
      cases x <;> exact ⟨rfl, rfl⟩
  induction body generalizing c with
  | nil =>
    rw [addBody] at h
    cases h
    exact ⟨rfl, rfl⟩
  | cons stmt body ih =>
    obtain ⟨new, -, h⟩ := except_bind_eq_ok.mp h
    rw [(ih h).1, (ih h).2]
    exact hadd new c

end Scope

namespace ModuleAnalysis

theorem newClass_ok {s : Scope} {name : String} {bases : List Expr} {body : List Stmt} {c : Class}
    (h : (newClass s name bases body).result = .ok c) :
    c.name = name ∧ s.resolveBase bases = .ok c.base := by
  obtain ⟨base, hbase, h⟩ := Logged.result_bind_eq_ok.mp h
  rw [Logged.result_log_bind, Logged.result_ofExcept] at h
  obtain ⟨hheader, hkept⟩ := Scope.addBody_ok h
  rw [Logged.result_ofExcept] at hbase
  exact ⟨congrArg Header.name hheader, hbase.trans (congrArg Except.ok hkept.symm)⟩

/-! ## One statement -/

/-- What one statement can do to what is known before it. -/
inductive Visited (a : ModuleAnalysis) : Stmt → ModuleAnalysis → Prop
  | importModules (aliases : List Source.Alias) :
    Visited a (.importModules aliases) (a.addImports (Scope.importModules aliases))
  | importFrom {source : Option String} {aliases : List Source.Alias} {level : Nat}
      {effect : Scope.ImportEffect}
      (h : (a.scope.importFrom source aliases level : Logged TextFault _).result = .ok effect) :
    Visited a (.importFrom source aliases level) (a.addImports effect)
  | functionDef {f : Source.FunctionHead} {m : Method String} (body : List Stmt)
      (h : a.scope.method a.scope.moduleName false f = .ok m) :
    Visited a (.functionDef f body) { a with module := a.module.addMethod m }
  | classDef {name : String} {bases : List Expr} {body : List Stmt} {c : Class}
      (h : (newClass a.scope name bases body).result = .ok c) :
    Visited a (.classDef name bases body) { a with module := a.module.addClass c }
  | skipped {stmt : Stmt} (h : stmt.isSkipped = true) : Visited a stmt a

variable {a b : ModuleAnalysis} {stmt : Stmt}

theorem visited_of_visit (h : (a.visit stmt).result = .ok b) : a.Visited stmt b := by
  cases stmt with
  | importModules aliases =>
    cases h
    exact .importModules aliases
  | importFrom source aliases level =>
    obtain ⟨effect, heffect, h⟩ := Logged.result_bind_eq_ok.mp h
    cases h
    exact .importFrom heffect
  | functionDef f body =>
    obtain ⟨m, hm, h⟩ := Logged.result_bind_eq_ok.mp h
    cases h
    exact .functionDef body hm
  | classDef name bases body =>
    obtain ⟨c, hc, h⟩ := Logged.result_bind_eq_ok.mp h
    cases h
    exact .classDef hc
  | annotated _ _ | assign _ | compound _ | other =>
    cases h
    exact .skipped rfl

theorem Visited.scope (h : a.Visited stmt b) :
    b.scope = a.scope.behind (Import.ofStmt stmt) := by
  cases h with
  | importModules aliases =>
    show a.scope.bind _ = _
    rw [a.scope.bindings_importModules]
    rfl
  | importFrom h =>
    show a.scope.bind _ = _
    rw [a.scope.bindings_importFrom h]
    rfl
  | functionDef | classDef => rfl
  | skipped h => cases stmt <;> first | rfl | cases h

/-- A module with more in it: it keeps its header, its path and the classes that it has. -/
structure Grown (m n : Module) : Prop where
  header : n.header = m.header
  path : n.path = m.path
  classes : m.classes <+: n.classes

theorem Grown.refl (m : Module) : Grown m m := ⟨rfl, rfl, List.prefix_rfl⟩

theorem Grown.trans {l m n : Module} (h : Grown l m) (hn : Grown m n) : Grown l n :=
  ⟨hn.header.trans h.header, hn.path.trans h.path, h.classes.trans hn.classes⟩

theorem grown_addImports (a : ModuleAnalysis) (effect : Scope.ImportEffect) :
    Grown a.module (a.addImports effect).module := by
  have hadd : ∀ (targets : List String) (m : Module), Grown m
      (targets.foldl (fun m target => m.addDependency (newImport m.name target)) m) := by
    intro targets
    induction targets with
    | nil => exact Grown.refl
    | cons target targets ih =>
      intro m
      have hfirst : Grown m (m.addDependency (newImport m.name target)) :=
        ⟨rfl, rfl, List.prefix_rfl⟩
      exact hfirst.trans (ih _)
  exact hadd effect.dependencies a.module

theorem Visited.grown (h : a.Visited stmt b) : Grown a.module b.module := by
  cases h with
  | importModules | importFrom => exact grown_addImports a _
  | functionDef => exact ⟨rfl, rfl, List.prefix_rfl⟩
  | classDef => exact ⟨rfl, rfl, List.prefix_append _ _⟩
  | skipped => exact Grown.refl _

/-! ## All statements -/

theorem visitAll_append (a : ModuleAnalysis) (first more : List Stmt) :
    a.visitAll (first ++ more) = a.visitAll first >>= (visitAll · more) := by
  induction first generalizing a with
  | nil =>
    rw [List.nil_append, visitAll, pure_bind]
  | cons stmt first ih =>
    rw [List.cons_append, visitAll, visitAll, bind_assoc]
    simp only [ih]

/-- The scope behind statements is the one behind their imports. -/
theorem visitAll_scope {stmts : List Stmt} (h : (a.visitAll stmts).result = .ok b) :
    b.scope = a.scope.behind (stmts.flatMap Import.ofStmt) := by
  induction stmts generalizing a with
  | nil =>
    cases h
    rfl
  | cons stmt stmts ih =>
    obtain ⟨c, hc, h⟩ := Logged.result_bind_eq_ok.mp h
    rw [ih h, (visited_of_visit hc).scope, Scope.behind_behind, List.flatMap_cons]

theorem visitAll_grown {stmts : List Stmt} (h : (a.visitAll stmts).result = .ok b) :
    Grown a.module b.module := by
  induction stmts generalizing a with
  | nil =>
    cases h
    exact Grown.refl _
  | cons stmt stmts ih =>
    obtain ⟨c, hc, h⟩ := Logged.result_bind_eq_ok.mp h
    exact (visited_of_visit hc).grown.trans (ih h)

/-- Each class statement adds the class that it defines in the scope at its place. -/
theorem mem_classes_of_visitAll {before after : List Stmt} {name : String} {bases : List Expr}
    {body : List Stmt}
    (h : (a.visitAll (before ++ .classDef name bases body :: after)).result = .ok b) :
    ∃ c ∈ b.module.classes,
      (newClass (a.scope.behind (before.flatMap Import.ofStmt)) name bases body).result
        = .ok c := by
  rw [visitAll_append] at h
  obtain ⟨x, hx, h⟩ := Logged.result_bind_eq_ok.mp h
  obtain ⟨y, hy, h⟩ := Logged.result_bind_eq_ok.mp h
  cases visited_of_visit hy with
  | @classDef _ _ _ c hc =>
    rw [visitAll_scope hx] at hc
    refine ⟨c, (visitAll_grown h).classes.subset ?_, hc⟩
    exact List.mem_append_right _ (List.mem_singleton_self c)
  | skipped hskipped => cases hskipped

end ModuleAnalysis

/-! ## Sources -/

/-- What the analysis of a module reads: the statements of a text, and what its file says of it. -/
structure ParsedSource where
  name : String
  isPackage : Bool := false
  stmts : List Stmt

namespace ParsedSource

variable {p : ParsedSource} {m : Module} {c : String}

def module (p : ParsedSource) : Logged TextFault Module :=
  ModuleAnalysis.run p.name p.isPackage p.stmts

/-- What is known before the first statement. -/
def scope (p : ParsedSource) : Scope where
  moduleName := p.name
  isPackage := p.isPackage
  classes := ModuleAnalysis.classNames p.stmts

/-- The statements of the module itself, in the order in which they are visited. -/
def visited (p : ParsedSource) : List Stmt := Stmt.modular.modularList p.stmts

/-- A class is a direct statement of the module. -/
def Declares (p : ParsedSource) (c : String) : Prop :=
  ∃ bases body, Stmt.classDef c bases body ∈ p.stmts

/-- The module of a text is that of the statements in the text. -/
theorem exists_of_ofText {file name text : String} {isPackage : Bool}
    (h : (Module.ofText file name isPackage text).result = .ok m) :
    ∃ p : ParsedSource, p.name = name ∧ p.isPackage = isPackage ∧
      Source.Program.ofText? text.toList = some p.stmts ∧ p.module.result = .ok m := by
  simp only [Module.ofText] at h
  split at h
  · cases h
  split at h
  · obtain ⟨_, _, h⟩ := Logged.result_bind_eq_ok.mp h
    cases h
  · rename_i stmts hstmts
    refine ⟨⟨name, isPackage, stmts⟩, rfl, rfl, hstmts, ?_⟩
    cases hrun : (ModuleAnalysis.run name isPackage stmts).result with
    | error e =>
      rw [Logged.mapError, hrun] at h
      cases h
    | ok n =>
      rw [Logged.mapError, hrun] at h
      cases h
      exact hrun

theorem module_ok (h : p.module.result = .ok m) : m.name = p.name ∧ m.path = "" := by
  obtain ⟨x, hx, h⟩ := Logged.result_bind_eq_ok.mp h
  cases h
  have hgrown := ModuleAnalysis.visitAll_grown hx
  exact ⟨congrArg Header.name hgrown.header, hgrown.path⟩

theorem mem_classes {before after : List Stmt} {bases : List Expr} {body : List Stmt}
    (h : p.module.result = .ok m)
    (hplace : p.visited = before ++ .classDef c bases body :: after) :
    ∃ k ∈ m.classes, (ModuleAnalysis.newClass (p.scope.behind (before.flatMap Import.ofStmt)) c
      bases body).result = .ok k := by
  obtain ⟨x, hx, h⟩ := Logged.result_bind_eq_ok.mp h
  cases h
  rw [visited] at hplace
  rw [hplace] at hx
  exact ModuleAnalysis.mem_classes_of_visitAll hx

theorem exists_class_of_declares (h : p.module.result = .ok m) (hdeclares : p.Declares c) :
    ∃ k ∈ m.classes, k.name = c := by
  obtain ⟨bases, body, hmem⟩ := hdeclares
  obtain ⟨before, after, hplace⟩ := List.append_of_mem (Stmt.classDef_mem_modularList hmem)
  obtain ⟨k, hk, hnew⟩ := mem_classes h hplace
  exact ⟨k, hk, (ModuleAnalysis.newClass_ok hnew).1⟩

end ParsedSource

end ClassDiagram
