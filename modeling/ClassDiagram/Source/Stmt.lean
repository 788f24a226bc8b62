import ClassDiagram.Source.Expr

/-!
Statements, as far as an analysis of classes looks at them. A compound statement is the list of
the statements of its blocks; a clause of it that stands one level deeper (an exception handler,
a case, an `elif` branch) is a compound statement in that list.

`modular` lists the statements that belong to a module itself, `walk` all statements below one.
-/

namespace ClassDiagram.Source

structure Parameter where
  name : String
  hint : Option Expr := none

structure Parameters where
  positionalOnly : List Parameter := []
  positional : List Parameter := []
  variadic : Option Parameter := none
  keywordOnly : List Parameter := []
  keywordVariadic : Option Parameter := none

/-- A function without its body. -/
structure FunctionHead where
  name : String
  parameters : Parameters
  returns : Option Expr
  decorators : List Expr

/-- An imported name and the name that it is bound to, if another is given. -/
structure Alias where
  name : String
  bound : Option String := none
  deriving DecidableEq, Repr

inductive Stmt
  | classDef (name : String) (bases : List Expr) (body : List Stmt)
  | functionDef (head : FunctionHead) (body : List Stmt)
  | importModules (aliases : List Alias)
  | importFrom (source : Option String) (aliases : List Alias) (level : Nat)
  | annotated (target hint : Expr)
  | assign (targets : List Expr)
  | compound (parts : List Stmt)
  | other
  deriving Inhabited

namespace Stmt

/-- The statements one level below. -/
def parts : Stmt → List Stmt
  | classDef _ _ body | functionDef _ body | compound body => body
  | _ => []

/-- The statements that are reached through compound statements alone, in document order. -/
def modular : Stmt → List Stmt
  | compound parts => modularList parts
  | stmt => [stmt]
where
  modularList : List Stmt → List Stmt
    | [] => []
    | stmt :: stmts => modular stmt ++ modularList stmts

/-- Appends two lists of lists, entry by entry. -/
def zipLevels {α : Type} : List (List α) → List (List α) → List (List α)
  | [], levels => levels
  | levels, [] => levels
  | a :: as, b :: bs => (a ++ b) :: zipLevels as bs

/-- A statement, then the statements one level below, two levels below and so on. -/
def levels : Stmt → List (List Stmt)
  | stmt@(classDef _ _ body) => [stmt] :: levelsOf body
  | stmt@(functionDef _ body) => [stmt] :: levelsOf body
  | stmt@(compound body) => [stmt] :: levelsOf body
  | stmt => [[stmt]]
where
  levelsOf : List Stmt → List (List Stmt)
    | [] => []
    | stmt :: stmts => zipLevels (levels stmt) (levelsOf stmts)

/-- A statement and all statements below it, those of a higher level first. -/
def walk (stmt : Stmt) : List Stmt := stmt.levels.flatten

end Stmt

end ClassDiagram.Source
