import ClassDiagram.Model.QualifiedName
import ClassDiagram.Model.Visibility

/-!
The elements of a program: modules with their classes, functions and imports, classes with their
methods and properties. `ρ` is how an element refers to its parent: by name in the trees of this
module, by reference in an arena (`Arena`).

A class holds one property of a name; adding another merges the two (`Property.merge`).
-/

namespace ClassDiagram

inductive Kind
  | moduleKind
  | classKind
  | methodKind
  | propertyKind
  | importKind
  deriving DecidableEq, Repr

namespace Kind

def all : List Kind := [moduleKind, classKind, methodKind, propertyKind, importKind]

def text : Kind → String
  | moduleKind => "Module"
  | classKind => "Class"
  | methodKind => "Method"
  | propertyKind => "Property"
  | importKind => "ImportedModule"

def ofText? (s : String) : Option Kind := all.find? (·.text == s)

/-- An element of the first kind can hold elements of the second. -/
def holds : Kind → Kind → Bool
  | moduleKind, propertyKind => false
  | moduleKind, _ => true
  | classKind, methodKind | classKind, propertyKind => true
  | _, _ => false

end Kind

/-- What all elements have. -/
structure Header (ρ : Type) where
  name : String
  parent : Option ρ := none
  visibility : Visibility := .pub
  lifetime : Lifetime := .perInstance
  deriving DecidableEq, Repr

structure Method (ρ : Type) where
  header : Header ρ
  returnType : Option QualifiedName := none
  argumentTypes : List QualifiedName := []
  deriving DecidableEq, Repr

structure Property (ρ : Type) where
  header : Header ρ
  hasGetter : Bool := false
  hasSetter : Bool := false
  type : Option QualifiedName := none
  deriving DecidableEq, Repr

/-- The target of an import. -/
structure ImportedModule (ρ : Type) where
  header : Header ρ
  deriving DecidableEq, Repr

namespace Property

variable {ρ : Type}

def name (p : Property ρ) : String := p.header.name

/-- Both properties in one: the accessors of either, the rest from the first, and the type from
the second if the first has none. -/
def merge (p q : Property ρ) : Property ρ :=
  { p with
    hasGetter := p.hasGetter || q.hasGetter
    hasSetter := p.hasSetter || q.hasSetter
    type := p.type <|> q.type }

/-- Merges a property into the one of its name, or puts it behind all others. -/
def insert (p : Property ρ) : List (Property ρ) → List (Property ρ)
  | [] => [p]
  | q :: qs => if q.name = p.name then q.merge p :: qs else q :: insert p qs

end Property

/-- A class in a tree. -/
structure Class where
  header : Header String
  methods : List (Method String) := []
  properties : List (Property String) := []
  base : Option QualifiedName := none
  deriving DecidableEq, Repr

/-- A module in a tree; the modules in it are nested to any depth. -/
structure Module where
  header : Header String
  path : String := ""
  modules : List Module := []
  classes : List Class := []
  methods : List (Method String) := []
  dependencies : List (ImportedModule String) := []

instance : Inhabited Module := ⟨{ header := { name := "" } }⟩

/-- The types of properties, one for each full name: at the place of the first and with the
segments of the last. -/
def distinctTypes (types : List (Option QualifiedName)) : List QualifiedName :=
  types.foldl (fun unique type =>
    match type with
    | none => unique
    | some q => putName q unique) []
where
  putName (q : QualifiedName) : List QualifiedName → List QualifiedName
    | [] => [q]
    | r :: rs => if r.fullName = q.fullName then q :: rs else r :: putName q rs

/-- An element of any kind, with all that is in it. -/
inductive Element
  | ofModule (m : Module)
  | ofClass (c : Class)
  | ofMethod (m : Method String)
  | ofProperty (p : Property String)
  | ofImport (i : ImportedModule String)

namespace Element

def kind : Element → Kind
  | ofModule _ => .moduleKind
  | ofClass _ => .classKind
  | ofMethod _ => .methodKind
  | ofProperty _ => .propertyKind
  | ofImport _ => .importKind

def header : Element → Header String
  | ofModule m => m.header
  | ofClass c => c.header
  | ofMethod m => m.header
  | ofProperty p => p.header
  | ofImport i => i.header

end Element

namespace Class

def name (c : Class) : String := c.header.name

def addMethod (c : Class) (m : Method String) : Class := { c with methods := c.methods ++ [m] }

def addProperty (c : Class) (p : Property String) : Class :=
  { c with properties := p.insert c.properties }

/-- What a class depends on. -/
def dependencies (c : Class) : List QualifiedName := distinctTypes (c.properties.map Property.type)

end Class

namespace Module

def name (m : Module) : String := m.header.name

def addClass (m : Module) (c : Class) : Module := { m with classes := m.classes ++ [c] }

def addMethod (m : Module) (f : Method String) : Module := { m with methods := m.methods ++ [f] }

def addDependency (m : Module) (i : ImportedModule String) : Module :=
  { m with dependencies := m.dependencies ++ [i] }

/-- A module that holds nothing but imports. -/
def importing (name : String) (targets : List String) : Module where
  header := { name }
  dependencies := targets.map fun target => ⟨{ name := target, parent := some name }⟩

def dependencyNames (m : Module) : List String := m.dependencies.map (·.header.name)

end Module

end ClassDiagram
