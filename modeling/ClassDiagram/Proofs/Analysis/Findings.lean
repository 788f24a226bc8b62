import ClassDiagram.Proofs.Analysis.Agreement

/-!
What statements add to the tree of a module (`Scope.foundAll`). It hangs on the scope alone, so the
analysis of a module is what its statements add, one behind the other
(`ParsedSource.result_module`): what stands in two parts of a module adds up (`foundAll_append`),
each class and function statement adds its own element (`names_of_foundAll`), and scopes that agree
on what is looked up find the same (`foundAll_congr`).
-/

namespace ClassDiagram

open Source (Alias Expr FunctionHead Stmt)

/-! ## Findings -/

/-- Elements that statements add to a module. -/
structure Findings where
  classes : List Class := []
  methods : List (Method String) := []
  dependencies : List (ImportedModule String) := []

namespace Findings

instance : Append Findings where
  append f g :=
    ⟨f.classes ++ g.classes, f.methods ++ g.methods, f.dependencies ++ g.dependencies⟩

variable (f g h : Findings)

theorem classes_append : (f ++ g).classes = f.classes ++ g.classes := rfl

theorem methods_append : (f ++ g).methods = f.methods ++ g.methods := rfl

theorem empty_append : ({} : Findings) ++ f = f := rfl

theorem append_assoc : f ++ g ++ h = f ++ (g ++ h) := by
  show Findings.mk _ _ _ = Findings.mk _ _ _
  congr 1 <;> exact List.append_assoc ..

end Findings

/-- A module with what was found behind what it holds. -/
def Module.extend (m : Module) (f : Findings) : Module :=
  { m with
    classes := m.classes ++ f.classes
    methods := m.methods ++ f.methods
    dependencies := m.dependencies ++ f.dependencies }

theorem Module.extend_empty (m : Module) : m.extend {} = m := by
  cases m
  simp only [extend, List.append_nil]

theorem Module.extend_append (m : Module) (f g : Findings) :
    m.extend (f ++ g) = (m.extend f).extend g := by
  show Module.mk _ _ _ _ _ _ = Module.mk _ _ _ _ _ _
  congr 1 <;> exact (List.append_assoc ..).symm

theorem Module.addClass_eq (m : Module) (c : Class) :
    m.addClass c = m.extend { classes := [c] } := by
  simp only [addClass, extend, List.append_nil]

theorem Module.addMethod_eq (m : Module) (f : Method String) :
    m.addMethod f = m.extend { methods := [f] } := by
  simp only [addMethod, extend, List.append_nil]

theorem Module.addDependency_eq (m : Module) (i : ImportedModule String) :
    m.addDependency i = m.extend { dependencies := [i] } := by
  simp only [addDependency, extend, List.append_nil]

/-! ## Statements -/

namespace Scope

variable {s t : Scope}

/-- What a `from` import does, without its warnings. -/
def memberEffect (s : Scope) (source : Option String) (aliases : List Alias) (level : Nat) :
    ImportEffect :=
  let package := s.sourceName source level
  match source with
  | none => importSiblings package aliases
  | some _ => if package = "" then {} else importMembers package aliases

theorem importFrom_result {ε : Type} (s : Scope) (source : Option String) (aliases : List Alias)
    (level : Nat) : (s.importFrom source aliases level : Logged ε ImportEffect).result =
      .ok (s.memberEffect source aliases level) := by
  rw [importFrom, Logged.result_bind, importSource_result]
  cases source <;> rfl

/-- The dependencies that an import adds to a module. -/
def imported (s : Scope) (effect : ImportEffect) : Findings where
  dependencies := effect.dependencies.map (ModuleAnalysis.newImport s.moduleName)

/-- What a statement adds to its module. -/
def found (s : Scope) : Stmt → Except TextFault Findings
  | .importModules aliases => return s.imported (importModules aliases)
  | .importFrom source aliases level => return s.imported (s.memberEffect source aliases level)
  | .functionDef f _ => do return { methods := [← s.method s.moduleName false f] }
  | .classDef name bases body => do
    return { classes := [← (ModuleAnalysis.newClass s name bases body).result] }
  | _ => return {}

/-- What statements add to their module, each in the scope behind the imports before it. -/
def foundAll (s : Scope) : List Stmt → Except TextFault Findings
  | [] => return {}
  | stmt :: stmts => do
    let first ← s.found stmt
    return first ++ (← (s.behind (Import.ofStmt stmt)).foundAll stmts)

theorem foundAll_cons (s : Scope) (stmt : Stmt) (stmts : List Stmt) :
    s.foundAll (stmt :: stmts) = s.found stmt >>= fun f =>
      (s.behind (Import.ofStmt stmt)).foundAll stmts >>= fun g => pure (f ++ g) := rfl

theorem foundAll_append (s : Scope) (first more : List Stmt) :
    s.foundAll (first ++ more) = s.foundAll first >>= fun f =>
      (s.behind (first.flatMap Import.ofStmt)).foundAll more >>= fun g => pure (f ++ g) := by
  induction first generalizing s with
  | nil =>
    show s.foundAll more = (s.behind []).foundAll more >>= fun g => pure ({} ++ g)
    simp only [Findings.empty_append, bind_pure]
    rfl
  | cons stmt first ih =>
    simp only [List.cons_append, foundAll_cons, ih, behind_behind, List.flatMap_cons, bind_assoc,
      pure_bind, Findings.append_assoc]

/-- The names of the functions among these statements. -/
def functionNames (stmts : List Stmt) : List String :=
  stmts.filterMap fun
    | .functionDef f _ => some f.name
    | _ => none

theorem name_of_method {parent : String} {inClass : Bool} {f : FunctionHead} {m : Method String}
    (h : s.method parent inClass f = .ok m) : m.header.name = f.name := by
  obtain ⟨returnType, -, h⟩ := except_bind_eq_ok.mp h
  obtain ⟨argumentTypes, -, h⟩ := except_bind_eq_ok.mp h
  cases h
  rfl

theorem found_classDef {name : String} {bases : List Expr} {body : List Stmt} {f : Findings}
    (h : s.found (.classDef name bases body) = .ok f) :
    ∃ c : Class, c.name = name ∧ f = { classes := [c] } := by
  obtain ⟨c, hc, h⟩ := except_bind_eq_ok.mp h
  exact ⟨c, (ModuleAnalysis.newClass_ok hc).1, (Except.ok.inj h).symm⟩

theorem found_functionDef {head : FunctionHead} {body : List Stmt} {f : Findings}
    (h : s.found (.functionDef head body) = .ok f) :
    ∃ m : Method String, m.header.name = head.name ∧ f = { methods := [m] } := by
  obtain ⟨m, hm, h⟩ := except_bind_eq_ok.mp h
  exact ⟨m, name_of_method hm, (Except.ok.inj h).symm⟩

theorem names_of_found {stmt : Stmt} {f : Findings} (h : s.found stmt = .ok f) :
    f.classes.map Class.name = ModuleAnalysis.classNames [stmt] ∧
      f.methods.map (·.header.name) = functionNames [stmt] := by
  cases stmt with
  | classDef name bases body =>
    obtain ⟨c, rfl, rfl⟩ := found_classDef h
    exact ⟨rfl, rfl⟩
  | functionDef head body =>
    obtain ⟨m, hm, rfl⟩ := found_functionDef h
    exact ⟨rfl, congrArg (fun n => [n]) hm⟩
  | _ =>
    cases h
    exact ⟨rfl, rfl⟩

/-- Each class and each function statement adds one element, of the name that it says. -/
theorem names_of_foundAll {stmts : List Stmt} {f : Findings} (h : s.foundAll stmts = .ok f) :
    f.classes.map Class.name = ModuleAnalysis.classNames stmts ∧
      f.methods.map (·.header.name) = functionNames stmts := by
  induction stmts generalizing s f with
  | nil =>
    cases h
    exact ⟨rfl, rfl⟩
  | cons stmt stmts ih =>
    obtain ⟨first, hfirst, h⟩ := except_bind_eq_ok.mp h
    obtain ⟨more, hmore, h⟩ := except_bind_eq_ok.mp h
    cases h
    obtain ⟨hclasses, hmethods⟩ := names_of_found hfirst
    obtain ⟨hclasses', hmethods'⟩ := ih hmore
    have hsplit : stmt :: stmts = [stmt] ++ stmts := rfl
    rw [Findings.classes_append, Findings.methods_append, List.map_append, List.map_append,
      hclasses, hmethods, hclasses', hmethods', hsplit, ModuleAnalysis.classNames,
      ModuleAnalysis.classNames, ModuleAnalysis.classNames, functionNames, functionNames,
      functionNames, List.filterMap_append, List.filterMap_append]
    exact ⟨rfl, rfl⟩

/-! ## Imports -/

/-- The modules that an import statement makes its module depend on: those that `import` names,
those that `from` without a module names, and the one that `from` names otherwise. A star stands for
the package, and nothing is imported from a module without a name. -/
def importTargets (s : Scope) : Stmt → List String
  | .importModules aliases => aliases.map Alias.name
  | .importFrom none aliases level => aliases.filterMap fun a =>
    if a.name = "*" then
      if s.sourceName none level = "" then none else some (s.sourceName none level)
    else some (within (s.sourceName none level) a.name)
  | .importFrom (some source) _ level =>
    if s.sourceName (some source) level = "" then [] else [s.sourceName (some source) level]
  | _ => []

/-- The entries of an import statement. -/
def importEntries (s : Scope) (stmt : Stmt) : List (ImportedModule String) :=
  (s.importTargets stmt).map (ModuleAnalysis.newImport s.moduleName)

/-- The entries depend on the place of the module alone. -/
theorem importEntries_behind (s : Scope) (imports : List Import) :
    (s.behind imports).importEntries = s.importEntries := by
  funext stmt
  cases stmt with
  | importFrom source => cases source <;> rfl
  | _ => rfl

theorem sourceName_ne_empty (s : Scope) {source : String} (h : source ≠ "") (level : Nat) :
    s.sourceName (some source) level ≠ "" := by
  rw [sourceName]
  split
  · exact h
  · split
    · rename_i package _
      by_cases hnil : package = []
      · rw [hnil]
        simpa [Text.Dotted.join] using h
      · rw [Option.toList_some, Text.Dotted.join_append hnil (List.cons_ne_nil _ [])]
        simp
    · simpa [Text.Dotted.join] using h

theorem importTargets_member (s : Scope) {source : String} (h : source ≠ "") (aliases : List Alias)
    (level : Nat) :
    s.importTargets (.importFrom (some source) aliases level)
      = [s.sourceName (some source) level] :=
  if_neg (s.sourceName_ne_empty h level)

theorem dependencies_memberEffect (s : Scope) (source : Option String) (aliases : List Alias)
    (level : Nat) : (s.memberEffect source aliases level).dependencies =
      s.importTargets (.importFrom source aliases level) := by
  cases source with
  | none => rfl
  | some source =>
    simp only [memberEffect, importTargets]
    split <;> rfl

/-- Import statements add their entries, and no others do. -/
theorem dependencies_of_found {stmt : Stmt} {f : Findings} (h : s.found stmt = .ok f) :
    f.dependencies = s.importEntries stmt := by
  cases stmt with
  | importModules aliases =>
    cases h
    rfl
  | importFrom source aliases level =>
    cases h
    rw [imported, dependencies_memberEffect]
    rfl
  | classDef name bases body =>
    obtain ⟨c, -, rfl⟩ := found_classDef h
    rfl
  | functionDef head body =>
    obtain ⟨m, -, rfl⟩ := found_functionDef h
    rfl
  | _ =>
    cases h
    rfl

/-! ## Agreement -/

theorem memberEffect_congr (hmodule : s.moduleName = t.moduleName)
    (hpackage : s.isPackage = t.isPackage) : s.memberEffect = t.memberEffect := by
  funext source aliases level
  simp only [memberEffect, sourceName_congr hmodule hpackage]

/-- The entries of import statements come in the order of the statements. -/
theorem dependencies_of_foundAll {stmts : List Stmt} {f : Findings} (h : s.foundAll stmts = .ok f) :
    f.dependencies = stmts.flatMap s.importEntries := by
  induction stmts generalizing s f with
  | nil =>
    cases h
    rfl
  | cons stmt stmts ih =>
    obtain ⟨first, hfirst, h⟩ := except_bind_eq_ok.mp h
    obtain ⟨more, hmore, h⟩ := except_bind_eq_ok.mp h
    cases h
    show first.dependencies ++ more.dependencies = _
    rw [dependencies_of_found hfirst, ih hmore, importEntries_behind, List.flatMap_cons]

theorem found_congr (hmodule : s.moduleName = t.moduleName) (hpackage : s.isPackage = t.isPackage)
    {stmt : Stmt} (h : ∀ e ∈ lookedUp stmt, s.Agree t e) : s.found stmt = t.found stmt := by
  cases stmt with
  | importModules aliases => rw [found, found, imported, imported, hmodule]
  | importFrom source aliases level =>
    rw [found, found, imported, imported, memberEffect_congr hmodule hpackage, hmodule]
  | functionDef f body => rw [found, found, hmodule, method_congr _ h]
  | classDef name bases body => rw [found, found, ModuleAnalysis.newClass_congr hmodule h]
  | _ => rfl

/-- **Scopes that agree on what is looked up find the same.** -/
theorem foundAll_congr (hmodule : s.moduleName = t.moduleName)
    (hpackage : s.isPackage = t.isPackage) {stmts : List Stmt}
    (h : ∀ before stmt after, stmts = before ++ stmt :: after → ∀ e ∈ lookedUp stmt,
      (s.behind (before.flatMap Import.ofStmt)).Agree (t.behind (before.flatMap Import.ofStmt)) e) :
    s.foundAll stmts = t.foundAll stmts := by
  induction stmts generalizing s t with
  | nil => rfl
  | cons stmt stmts ih =>
    have hfirst : s.found stmt = t.found stmt :=
      found_congr hmodule hpackage (h [] stmt stmts rfl)
    have hrest := ih (s := s.behind (Import.ofStmt stmt)) (t := t.behind (Import.ofStmt stmt))
      hmodule hpackage fun before later after hstmts => by
        have hplace := h (stmt :: before) later after (hstmts ▸ rfl)
        rwa [List.flatMap_cons, ← behind_behind, ← behind_behind] at hplace
    rw [foundAll_cons, foundAll_cons, hfirst, hrest]

end Scope

/-! ## The visit -/

namespace ModuleAnalysis

variable {a : ModuleAnalysis}

theorem addImports_eq (a : ModuleAnalysis) (effect : Scope.ImportEffect) :
    a.addImports effect = ⟨a.scope.bind effect.bindings, a.module.extend {
      dependencies := effect.dependencies.map (newImport a.module.name) }⟩ := by
  have hadd : ∀ (targets : List String) (m : Module),
      targets.foldl (fun m target => m.addDependency (newImport m.name target)) m =
        m.extend { dependencies := targets.map (newImport m.name) } := by
    intro targets
    induction targets with
    | nil => exact fun m => m.extend_empty.symm
    | cons target targets ih =>
      intro m
      rw [List.foldl_cons, ih, m.addDependency_eq]
      exact (m.extend_append { dependencies := [newImport m.name target] } _).symm
  rw [addImports, hadd]

/-- A statement puts what it adds behind what the module holds. -/
theorem result_visit (h : a.module.name = a.scope.moduleName) (stmt : Stmt) :
    (a.visit stmt).result = (a.scope.found stmt).map fun f =>
      ⟨a.scope.behind (Import.ofStmt stmt), a.module.extend f⟩ := by
  cases stmt with
  | importModules aliases =>
    rw [visit, addImports_eq, h, a.scope.bindings_importModules]
    rfl
  | importFrom source aliases level =>
    rw [visit, Logged.result_bind, Scope.importFrom_result]
    show Except.ok (a.addImports _) = _
    have heffect := a.scope.importFrom_result (ε := TextFault) source aliases level
    rw [addImports_eq, h, a.scope.bindings_importFrom heffect]
    rfl
  | functionDef f body =>
    rw [visit, Logged.result_bind, Logged.result_ofExcept, Scope.found]
    cases a.scope.method a.scope.moduleName false f with
    | error fault => rfl
    | ok m => exact congrArg (fun n => Except.ok (mk a.scope n)) (a.module.addMethod_eq m)
  | classDef name bases body =>
    rw [visit, Logged.result_bind, Scope.found]
    cases (newClass a.scope name bases body).result with
    | error fault => rfl
    | ok c => exact congrArg (fun n => Except.ok (mk a.scope n)) (a.module.addClass_eq c)
  | _ => exact congrArg (fun n => Except.ok (mk a.scope n)) a.module.extend_empty.symm

/-- **Statements put what they add behind what the module holds.** -/
theorem result_visitAll (h : a.module.name = a.scope.moduleName) (stmts : List Stmt) :
    (a.visitAll stmts).result = (a.scope.foundAll stmts).map fun f =>
      ⟨a.scope.behind (stmts.flatMap Import.ofStmt), a.module.extend f⟩ := by
  induction stmts generalizing a with
  | nil => exact congrArg (fun n => Except.ok (mk a.scope n)) a.module.extend_empty.symm
  | cons stmt stmts ih =>
    rw [visitAll, Logged.result_bind, result_visit h, Scope.foundAll_cons]
    cases a.scope.found stmt with
    | error fault => rfl
    | ok f =>
      refine (ih (a := ⟨a.scope.behind (Import.ofStmt stmt), a.module.extend f⟩) h).trans ?_
      show _ = Except.map _ (Scope.foundAll _ stmts >>= fun g => pure (f ++ g))
      cases (a.scope.behind (Import.ofStmt stmt)).foundAll stmts with
      | error fault => rfl
      | ok g =>
        show Except.ok (mk _ _) = Except.ok (mk _ _)
        rw [a.scope.behind_behind, a.module.extend_append, List.flatMap_cons]

end ModuleAnalysis

namespace ParsedSource

/-- The tree of a module before its first statement. -/
def bare (p : ParsedSource) : Module :=
  (ModuleAnalysis.start p.name p.isPackage p.stmts).module

theorem result_module (p : ParsedSource) :
    p.module.result = (p.scope.foundAll p.visited).map p.bare.extend := by
  show (ModuleAnalysis.visitAll _ _ >>= fun a => pure a.module).result = _
  rw [Logged.result_bind, ModuleAnalysis.result_visitAll (by rfl)]
  show _ = Except.map _ ((ModuleAnalysis.start p.name p.isPackage p.stmts).scope.foundAll p.visited)
  rw [visited]
  cases Scope.foundAll _ (Stmt.modular.modularList p.stmts) <;> rfl

/-- A module is analysed just if its statements are, and then holds what they add. -/
theorem module_eq_ok_iff {p : ParsedSource} {m : Module} : p.module.result = .ok m ↔
    ∃ f, p.scope.foundAll p.visited = .ok f ∧ p.bare.extend f = m := by
  rw [result_module, except_map_eq_ok]

end ParsedSource

end ClassDiagram
