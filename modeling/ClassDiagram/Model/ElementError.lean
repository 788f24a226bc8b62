import ClassDiagram.Model.Element
import ClassDiagram.Text.Quoted

/-!
Why an operation on elements fails.
-/

namespace ClassDiagram

inductive ElementError
  /-- No element of the second kind holds one of the first. -/
  | unsupported (child parent : Kind)
  | noSegments
  | unknownVisibility (text : String)
  | unknownLifetime (text : String)
  | missingField (kind : Kind) (field : String)
  | readOnlyField (kind : Kind) (field : String)
  | indexOutOfRange
  | noSignature (kind : Kind)
  | unknownHandle (id : String)
  deriving DecidableEq, Repr

namespace ElementError

open Text.Quoted (quoted)

def message : ElementError → String
  | unsupported child parent => child.text ++ " not supported in " ++ parent.text
  | noSegments => "QualifiedName requires at least one segment"
  | unknownVisibility text => quoted text ++ " is not a valid Visibility"
  | unknownLifetime text => quoted text ++ " is not a valid Lifetime"
  | missingField kind field =>
    "'" ++ kind.text ++ "' object has no attribute '" ++ field ++ "'"
  | readOnlyField kind field =>
    "property '" ++ field ++ "' of '" ++ kind.text ++ "' object has no setter"
  | indexOutOfRange => "list index out of range"
  | noSignature kind => "Cannot format a signature for " ++ kind.text
  | unknownHandle id => quoted id

end ElementError

namespace QualifiedName

/-- A qualified name of these segments, if there are any. -/
def ofParts (parts : List String) : Except ElementError QualifiedName :=
  match ofList? parts with
  | some q => .ok q
  | none => .error .noSegments

end QualifiedName

namespace Visibility

def parse (text : String) : Except ElementError Visibility :=
  match ofText? text with
  | some v => .ok v
  | none => .error (.unknownVisibility text)

end Visibility

namespace Lifetime

def parse (text : String) : Except ElementError Lifetime :=
  match ofText? text with
  | some l => .ok l
  | none => .error (.unknownLifetime text)

end Lifetime

end ClassDiagram
