import ClassDiagram.Arena.Outline

/-!
The fields of elements by name. Only a field that holds data can be set, to a value of its own type
(`Cell.withField`). What an element was made with cannot be set at all. The rest is left out here:
setting a collection, giving a field a value of another type, or setting a name that is no field is
accepted without an effect on the element. Collections change by the elements that are added.
-/

namespace ClassDiagram

inductive FieldValue
  | text (s : String)
  | truth (b : Bool)
  /-- A qualified name, or none. -/
  | qualified (parts : Option (List String))
  | qualifiedList (names : List (List String))
  deriving DecidableEq, Repr

/-- A value whose qualified names have segments. -/
inductive CheckedValue
  | text (s : String)
  | truth (b : Bool)
  | qualified (q : Option QualifiedName)
  | qualifiedList (qs : List QualifiedName)

namespace FieldValue

def check : FieldValue → Except ElementError CheckedValue
  | text s => return .text s
  | truth b => return .truth b
  | qualified parts => return .qualified (← ElementOutline.qualified? parts)
  | qualifiedList names => return .qualifiedList (← names.mapM QualifiedName.ofParts)

end FieldValue

namespace Cell

def readOnlyFields : Kind → List String
  | .classKind => ["name", "parent", "visibility", "lifetime", "properties", "dependencies"]
  | _ => ["name", "parent", "visibility", "lifetime"]

/-- The element with a field of data set. Collections, values of another type than the field's and
names that are no fields leave it as it is. -/
def withField (c : Cell) (field : String) (value : CheckedValue) : Cell :=
  match c, field, value with
  | .ofModule h _ modules classes methods dependencies, "path", .text s =>
    .ofModule h s modules classes methods dependencies
  | .ofClass h methods properties _, "extends", .qualified q => .ofClass h methods properties q
  | .ofMethod m, "return_type", .qualified q => .ofMethod { m with returnType := q }
  | .ofMethod m, "argument_types", .qualifiedList qs => .ofMethod { m with argumentTypes := qs }
  | .ofProperty p, "has_getter", .truth b => .ofProperty { p with hasGetter := b }
  | .ofProperty p, "has_setter", .truth b => .ofProperty { p with hasSetter := b }
  | .ofProperty p, "type", .qualified q => .ofProperty { p with type := q }
  | c, _, _ => c

/-- The collection of a name. -/
def collection? (c : Cell) (name : String) : Except ElementError (List Ref) :=
  match c, name with
  | .ofModule _ _ modules _ _ _, "modules" => .ok modules
  | .ofModule _ _ _ classes _ _, "classes" => .ok classes
  | .ofModule _ _ _ _ methods _, "methods" => .ok methods
  | .ofModule _ _ _ _ _ dependencies, "dependencies" => .ok dependencies
  | .ofClass _ methods _ _, "methods" => .ok methods
  | .ofClass _ _ properties _, "properties" => .ok properties.values
  | c, name => .error (.missingField c.kind name)

end Cell

/-- The place in a list that an index stands for; a negative one counts from the end. -/
def placeOfIndex? (length : Nat) (index : Int) : Option Nat :=
  let place := if index < 0 then index + length else index
  if 0 ≤ place ∧ place < length then some place.toNat else none

namespace Arena

def set (a : Arena) (r : Ref) (field : String) (value : FieldValue) :
    Except ElementError Arena := do
  let checked ← value.check
  match a.read? r with
  | none => return a
  | some c =>
    if field ∈ Cell.readOnlyFields c.kind then .error (.readOnlyField c.kind field)
    else return a.write r (c.withField field checked)

/-- The child at an index of a collection. -/
def pick (c : Cell) (collection : String) (index : Int) : Except ElementError Ref := do
  let items ← c.collection? collection
  match (placeOfIndex? items.length index).bind (items[·]?) with
  | some r => return r
  | none => .error .indexOutOfRange

end Arena

end ClassDiagram
