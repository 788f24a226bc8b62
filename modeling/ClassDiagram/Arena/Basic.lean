import ClassDiagram.Closure
import ClassDiagram.Dictionary
import ClassDiagram.Model.ElementError

/-!
Elements with identity. An arena keeps each element in a cell of its own; handles and the
collections of other elements refer to cells, so that all of them see a change. A cell is alive
while a handle leads to it through collections, and only then its children can read it as their
parent (`isAlive`, `parent?`). A cell that is not alive never becomes so again, since nothing but
cells that are alive can be attached or named.
-/

namespace ClassDiagram

/-- The place of a cell. -/
abbrev Ref := Nat

/-- An element whose parent and children are in other cells. -/
inductive Cell
  | ofModule (header : Header Ref) (path : String)
      (modules classes methods dependencies : List Ref)
  | ofClass (header : Header Ref) (methods : List Ref) (properties : Dictionary Ref)
      (base : Option QualifiedName)
  | ofMethod (m : Method Ref)
  | ofProperty (p : Property Ref)
  | ofImport (i : ImportedModule Ref)
  deriving DecidableEq, Repr

namespace Cell

def kind : Cell → Kind
  | ofModule .. => .moduleKind
  | ofClass .. => .classKind
  | ofMethod _ => .methodKind
  | ofProperty _ => .propertyKind
  | ofImport _ => .importKind

def header : Cell → Header Ref
  | ofModule h .. => h
  | ofClass h .. => h
  | ofMethod m => m.header
  | ofProperty p => p.header
  | ofImport i => i.header

def children : Cell → List Ref
  | ofModule _ _ modules classes methods dependencies =>
    modules ++ classes ++ methods ++ dependencies
  | ofClass _ methods properties _ => methods ++ properties.values
  | _ => []

end Cell

structure Arena where
  cells : List Cell := []
  /-- Names for cells. -/
  handles : Dictionary Ref := []

namespace Arena

def read? (a : Arena) (r : Ref) : Option Cell := a.cells[r]?

def write (a : Arena) (r : Ref) (c : Cell) : Arena := { a with cells := a.cells.set r c }

/-- A cell for a new element, and its place. -/
def allocate (a : Arena) (c : Cell) : Arena × Ref :=
  ({ a with cells := a.cells ++ [c] }, a.cells.length)

def bind (a : Arena) (id : String) (r : Ref) : Arena := { a with handles := a.handles.put id r }

def drop (a : Arena) (id : String) : Arena :=
  { a with handles := a.handles.filter (·.1 ≠ id) }

def childrenAt (a : Arena) (r : Ref) : List Ref :=
  match a.read? r with
  | some c => c.children
  | none => []

/-- The cells that handles lead to. -/
def alive (a : Arena) : List Ref :=
  Closure.closure a.childrenAt a.cells.length a.handles.values.eraseDups

def isAlive (a : Arena) (r : Ref) : Bool := a.alive.contains r

/-- The parent of an element, while it is alive. -/
def parent? (a : Arena) (c : Cell) : Option Ref := c.header.parent.filter a.isAlive

/-- The name of the parent of an element, if the parent is among the cells that are alive. -/
def parentName? (a : Arena) (alive : List Ref) (c : Cell) : Option String := do
  let parent ← c.header.parent.filter alive.contains
  return (← a.read? parent).header.name

/-! ## Attaching and merging -/

/-- Attaches the element in a cell to another one. -/
def attach (a : Arena) (parent child : Ref) : Except ElementError Arena :=
  match a.read? parent, a.read? child with
  | some holder, some held =>
    match holder, held with
    | .ofModule h path modules classes methods dependencies, .ofModule .. =>
      .ok (a.write parent (.ofModule h path (modules ++ [child]) classes methods dependencies))
    | .ofModule h path modules classes methods dependencies, .ofClass .. =>
      .ok (a.write parent (.ofModule h path modules (classes ++ [child]) methods dependencies))
    | .ofModule h path modules classes methods dependencies, .ofMethod _ =>
      .ok (a.write parent (.ofModule h path modules classes (methods ++ [child]) dependencies))
    | .ofModule h path modules classes methods dependencies, .ofImport _ =>
      .ok (a.write parent (.ofModule h path modules classes methods (dependencies ++ [child])))
    | .ofClass h methods properties base, .ofMethod _ =>
      .ok (a.write parent (.ofClass h (methods ++ [child]) properties base))
    | .ofClass h methods properties base, .ofProperty p =>
      match properties.get? p.name, (properties.get? p.name).bind a.read? with
      | some _, some (.ofProperty first) =>
        let (b, r) := a.allocate (.ofProperty (first.merge p))
        .ok (b.write parent (.ofClass h methods (properties.put p.name r) base))
      | _, _ => .ok (a.write parent (.ofClass h methods (properties.put p.name child) base))
    | _, _ => .error (.unsupported held.kind holder.kind)
  | _, _ => .ok a

/-- Puts the product of two elements into a cell of its own. What is asked of the second depends
on what the first, which has to be a property, lacks. -/
def mergeCells (a : Arena) (first second : Cell) : Except ElementError (Arena × Ref) :=
  match first, second with
  | .ofProperty p, .ofProperty q => .ok (a.allocate (.ofProperty (p.merge q)))
  | .ofProperty p, other =>
    if !p.hasGetter then .error (.missingField other.kind "has_getter")
    else if !p.hasSetter then .error (.missingField other.kind "has_setter")
    else if p.type = none then .error (.missingField other.kind "type")
    else .ok (a.allocate (.ofProperty p))
  | other, _ => .error (.missingField other.kind "merge")

end Arena

end ClassDiagram
