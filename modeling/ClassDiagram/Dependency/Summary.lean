import ClassDiagram.Model.Element
import ClassDiagram.Text.Alphabetical
import ClassDiagram.Text.Json

/-!
What modules depend on. The summary lists the modules by name, each with the names that it depends
on (`DependencySummary.ofModules`); the links lead from each name to those among them that are names
of modules (`Dependency.table`).
-/

namespace ClassDiagram

/-- A module's line in a summary. -/
structure DependencySummary where
  name : String
  dependencies : List String
  deriving DecidableEq, Repr

namespace DependencySummary

def ofModule (m : Module) : DependencySummary where
  name := m.name
  dependencies := Text.alphabetical m.dependencyNames

/-- The summary of modules; modules of one name keep their order. -/
def ofModules (modules : List Module) : List DependencySummary :=
  (Text.sortBy Module.name modules).map ofModule

open Text (Json)

def toJson (s : DependencySummary) : Json :=
  .object [("name", .string s.name), ("dependencies", .array (s.dependencies.map .string))]

/-- Summaries as text for other programs. -/
def text (summaries : List DependencySummary) : String := (Json.array (summaries.map toJson)).text

end DependencySummary

/-! ## Links -/

namespace Dependency

/-- The names that a module of some name depends on, among the names of the modules. -/
def successors (modules : List Module) (name : String) : List String :=
  ((modules.filter (·.name = name)).flatMap Module.dependencyNames).filter
    (modules.map Module.name).contains

/-- Successors by name, looked up once. -/
def table (modules : List Module) : List (String × List String) :=
  (Text.alphabetical (modules.map Module.name)).map fun name => (name, successors modules name)

end Dependency

end ClassDiagram
