import ClassDiagram.Analysis.Members

/-!
From the statements of a module to its element tree. The statements that belong to the module
itself are visited in document order; imports change the scope for the statements behind them,
while the classes of the module are known from the start.
-/

namespace ClassDiagram

open Source (Stmt)

/-- What is known behind a statement: the scope, and the elements found so far. -/
structure ModuleAnalysis where
  scope : Scope
  module : Module

namespace ModuleAnalysis

/-- The names of the classes among these statements. -/
def classNames (stmts : List Stmt) : List String :=
  stmts.filterMap fun
    | .classDef name _ _ => some name
    | _ => none

def start (moduleName : String) (isPackage : Bool) (stmts : List Stmt) : ModuleAnalysis where
  scope := { moduleName, isPackage, classes := classNames stmts }
  module := {
    header := {
      name := moduleName
      visibility := .ofName (Text.Dotted.splitLast moduleName).2 } }

def newImport (parent target : String) : ImportedModule String where
  header := { name := target, parent := some parent }

def addImports (a : ModuleAnalysis) (effect : Scope.ImportEffect) : ModuleAnalysis where
  scope := a.scope.bind effect.bindings
  module := effect.dependencies.foldl
    (fun m target => m.addDependency (newImport m.name target)) a.module

/-- The class that a class statement defines. -/
def newClass (s : Scope) (name : String) (bases : List Source.Expr) (body : List Stmt) :
    Logged TextFault Class := do
  let base ← Logged.ofExcept (s.resolveBase bases)
  Logged.log .debug ("Found class: " ++ name ++ " in " ++ s.moduleName)
  Logged.ofExcept (s.addBody {
    header := { name, parent := some s.moduleName, visibility := .ofName name }, base } body)

def visit (a : ModuleAnalysis) : Stmt → Logged TextFault ModuleAnalysis
  | .importModules aliases => pure (a.addImports (Scope.importModules aliases))
  | .importFrom source aliases level => do
    return a.addImports (← a.scope.importFrom source aliases level)
  | .functionDef f _ => do
    let m ← Logged.ofExcept (a.scope.method a.scope.moduleName false f)
    return { a with module := a.module.addMethod m }
  | .classDef name bases body => do
    let c ← newClass a.scope name bases body
    return { a with module := a.module.addClass c }
  | _ => pure a

def visitAll (a : ModuleAnalysis) : List Stmt → Logged TextFault ModuleAnalysis
  | [] => pure a
  | stmt :: stmts => do visitAll (← a.visit stmt) stmts

/-- The element tree of a module with these statements. -/
def run (moduleName : String) (isPackage : Bool) (stmts : List Stmt) :
    Logged TextFault Module := do
  let a ← (start moduleName isPackage stmts).visitAll (Stmt.modular.modularList stmts)
  return a.module

end ModuleAnalysis

end ClassDiagram
