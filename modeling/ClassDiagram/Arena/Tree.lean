import ClassDiagram.Arena.Basic

/-!
The tree below a cell. Containers that contain each other have no tree; a depth no greater than
the number of cells is enough for all others. The cells that are alive are found once for a tree.
-/

namespace ClassDiagram.Arena

def headerTree (a : Arena) (alive : List Ref) (c : Cell) : Header String :=
  { c.header with parent := a.parentName? alive c }

def methodTree? (a : Arena) (alive : List Ref) (r : Ref) : Option (Method String) :=
  match a.read? r with
  | some (.ofMethod m) => some { m with header := a.headerTree alive (.ofMethod m) }
  | _ => none

def propertyTree? (a : Arena) (alive : List Ref) (r : Ref) : Option (Property String) :=
  match a.read? r with
  | some (.ofProperty p) => some { p with header := a.headerTree alive (.ofProperty p) }
  | _ => none

def importTree? (a : Arena) (alive : List Ref) (r : Ref) :
    Option (ImportedModule String) :=
  match a.read? r with
  | some (.ofImport i) => some ⟨a.headerTree alive (.ofImport i)⟩
  | _ => none

def classTree? (a : Arena) (alive : List Ref) (r : Ref) : Option Class :=
  match a.read? r with
  | some (.ofClass h methods properties base) => some {
      header := a.headerTree alive (.ofClass h methods properties base)
      methods := methods.filterMap (a.methodTree? alive)
      properties := properties.values.filterMap (a.propertyTree? alive)
      base }
  | _ => none

def moduleTreeTo? (a : Arena) (alive : List Ref) : Nat → Ref → Option Module
  | 0, _ => none
  | depth + 1, r =>
    match a.read? r with
    | some (.ofModule h path modules classes methods dependencies) => some {
        header := a.headerTree alive (.ofModule h path modules classes methods dependencies)
        path
        modules := modules.filterMap (a.moduleTreeTo? alive depth)
        classes := classes.filterMap (a.classTree? alive)
        methods := methods.filterMap (a.methodTree? alive)
        dependencies := dependencies.filterMap (a.importTree? alive) }
    | _ => none

def moduleTree? (a : Arena) (alive : List Ref) (r : Ref) : Option Module :=
  a.moduleTreeTo? alive a.cells.length r

def elementTree? (a : Arena) (alive : List Ref) (r : Ref) : Option Element :=
  match a.read? r with
  | some (.ofModule ..) => (a.moduleTree? alive r).map .ofModule
  | some (.ofClass ..) => (a.classTree? alive r).map .ofClass
  | some (.ofMethod _) => (a.methodTree? alive r).map .ofMethod
  | some (.ofProperty _) => (a.propertyTree? alive r).map .ofProperty
  | some (.ofImport _) => (a.importTree? alive r).map .ofImport
  | none => none

/-- The element in a cell, with all that is in it. -/
def element? (a : Arena) (r : Ref) : Option Element := a.elementTree? a.alive r

/-- The element as a module; other kinds have no path to draw it at. -/
def asModule : Element → Except ElementError Module
  | .ofModule m => .ok m
  | e => .error (.missingField e.kind "path")

end ClassDiagram.Arena
