import ClassDiagram.Closure
import ClassDiagram.Dependency.Summary

/-!
Cycles among the modules that depend on each other. Each cycle is listed once, from its first name
in alphabetical order (`cycles`).

For each name the search looks for the ways back to it through later names. A way uses a name at
most once, so the names that it has not used bound the search; names from which no way leads back
are left out beforehand.
-/

namespace ClassDiagram.Dependency

/-- The names of a table that a name follows. -/
def predecessors (links : List (String × List String)) (name : String) : List String :=
  (links.filter (·.2.contains name)).map Prod.fst

/-- The ways from a name back to the start, through names that are free. -/
def waysBack (next : String → List String) (start name : String) (free : List String) :
    List (List String) :=
  (if start ∈ next name then [[name]] else [])
    ++ (free.attach.filter fun ⟨n, _⟩ => n ∈ next name).flatMap fun ⟨n, h⟩ =>
      have : (free.erase n).length < free.length := by
        have := List.length_pos_of_mem h
        rw [List.length_erase_of_mem h]
        omega
      (waysBack next start n (free.erase n)).map (name :: ·)
termination_by free.length

/-- The cycles whose first name in alphabetical order this is. -/
def cyclesFrom (links : List (String × List String)) (start : String) : List (List String) :=
  let later := links.filter fun (name, _) => start < name
  let back := Closure.closure (predecessors later) later.length [start]
  let free := (later.map Prod.fst).filter back.contains
  waysBack (fun name => (links.lookup name).getD []) start start free

def cycles (modules : List Module) : List (List String) :=
  let links := table modules
  links.flatMap fun (name, _) => cyclesFrom links name

/-- A cycle as text, back to where it begins. -/
def cycleText (cycle : List String) : String := " -> ".intercalate (cycle ++ cycle.take 1)

end ClassDiagram.Dependency
