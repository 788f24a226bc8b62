import ClassDiagram.Arena.Basic

/-!
Outlines of elements: texts and flags from which an arena builds an element with all that is in
it. The outline can be wrong; the first fault ends the building (`Arena.build`).
-/

namespace ClassDiagram

structure ElementOutline where
  kind : Kind
  name : String
  visibility : String := "public"
  lifetime : String := "instance"
  path : String := ""
  base : Option (List String) := none
  returnType : Option (List String) := none
  argumentTypes : List (List String) := []
  hasGetter : Bool := false
  hasSetter : Bool := false
  type : Option (List String) := none
  children : List ElementOutline := []

instance : Inhabited ElementOutline := ⟨{ kind := .moduleKind, name := "" }⟩

namespace ElementOutline

/-- A qualified name that may be missing. -/
def qualified? : Option (List String) → Except ElementError (Option QualifiedName)
  | none => return none
  | some parts => return some (← QualifiedName.ofParts parts)

/-- The element itself, without its children. -/
def cell (o : ElementOutline) (parent : Option Ref) : Except ElementError Cell := do
  let visibility ← Visibility.parse o.visibility
  let lifetime ← Lifetime.parse o.lifetime
  let header : Header Ref := { name := o.name, parent, visibility, lifetime }
  match o.kind with
  | .moduleKind => return .ofModule header o.path [] [] [] []
  | .classKind => return .ofClass header [] [] (← qualified? o.base)
  | .methodKind =>
    let returnType ← qualified? o.returnType
    let argumentTypes ← o.argumentTypes.mapM QualifiedName.ofParts
    return .ofMethod { header, returnType, argumentTypes }
  | .propertyKind =>
    let type ← qualified? o.type
    return .ofProperty { header, hasGetter := o.hasGetter, hasSetter := o.hasSetter, type }
  | .importKind => return .ofImport { header }

end ElementOutline

namespace Arena

/-- Builds the element of an outline, and attaches the elements in it one by one. -/
def build (a : Arena) (parent : Option Ref) : ElementOutline → Except ElementError (Arena × Ref)
  | ⟨kind, name, visibility, lifetime, path, base, returnType, argumentTypes, hasGetter, hasSetter,
      type, children⟩ => do
    let outline : ElementOutline :=
      ⟨kind, name, visibility, lifetime, path, base, returnType, argumentTypes, hasGetter,
        hasSetter, type, []⟩
    let cell ← outline.cell parent
    let (b, r) := a.allocate cell
    return (← buildChildren b r children, r)
where
  buildChildren (a : Arena) (parent : Ref) : List ElementOutline → Except ElementError Arena
    | [] => return a
    | o :: os => do
      let (b, r) ← a.build (some parent) o
      buildChildren (← b.attach parent r) parent os

end Arena

end ClassDiagram
