import ClassDiagram.Diagram.Signature
import ClassDiagram.Model.ElementError

/-!
The lines of elements of any kind. Only methods and properties have a line by their kind.
-/

namespace ClassDiagram

/-- How the lines of elements are written: each by its kind, or all as methods or properties. -/
inductive LineStyle
  | byKind
  | asMethod
  | asProperty
  deriving DecidableEq, Repr

namespace Element

def methodLine (e : Element) : String := Signature.method e.header

def propertyLine : Element → Except ElementError String
  | .ofProperty p => .ok (Signature.property p)
  | e => .error (.missingField e.kind "has_getter")

def kindLine : Element → Except ElementError String
  | .ofMethod m => .ok (Signature.method m.header)
  | .ofProperty p => .ok (Signature.property p)
  | e => .error (.noSignature e.kind)

def line : LineStyle → Element → Except ElementError String
  | .byKind, e => e.kindLine
  | .asMethod, e => .ok e.methodLine
  | .asProperty, e => e.propertyLine

def visibility (e : Element) : Visibility := e.header.visibility

end Element

end ClassDiagram
