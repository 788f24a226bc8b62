import ClassDiagram.Text.Parts
import ClassDiagram.Text.Quoted

/-!
Qualified names: paths of segments with at least one segment. They refer to elements that need
not exist. As the identifier of a node, the position of an element is one text, with bars between
its segments; `NodeId.ofName` gives the one that a qualified name points at.
-/

namespace ClassDiagram

structure QualifiedName where
  parts : List String
  nonempty : parts ≠ []
  deriving DecidableEq

namespace QualifiedName

instance : Repr QualifiedName := ⟨fun q n => reprPrec q.parts n⟩

def ofList? (parts : List String) : Option QualifiedName :=
  if h : parts ≠ [] then some ⟨parts, h⟩ else none

def single (name : String) : QualifiedName := ⟨[name], by simp⟩

def pair (scope name : String) : QualifiedName := ⟨[scope, name], by simp⟩

/-- The first segment. -/
def first (q : QualifiedName) : String := q.parts.head q.nonempty

/-- The last segment. -/
def name (q : QualifiedName) : String := q.parts.getLast q.nonempty

def fullName (q : QualifiedName) : String := Text.Dotted.join q.parts

/-- A dotted name as a qualified one: what stands before the last point, if anything does, and
the last segment. -/
def ofDotted (dotted : String) : QualifiedName :=
  match Text.Dotted.splitLast dotted with
  | (scope, name) => if scope = "" then single name else pair scope name

/-- The text that shows a qualified name in messages. -/
def shown (q : QualifiedName) : String :=
  "QualifiedName(" ++ Text.Quoted.quotedList q.parts ++ ")"

theorem ofList?_parts (q : QualifiedName) : ofList? q.parts = some q := by
  simp [ofList?, q.nonempty]

theorem ofList?_eq_none {parts : List String} : ofList? parts = none ↔ parts = [] := by
  simp [ofList?]

end QualifiedName

/-! ## Identifiers of nodes -/

namespace NodeId

/-- Slashes set the segments of a path apart, bars those of an identifier. -/
def separator (c : Char) : Char := if c = '/' then '|' else c

def encode (cs : List Char) : List Char := cs.map separator

/-- The identifier of a name at a path, which may itself be an identifier. -/
def within (path name : String) : String :=
  String.ofList (encode (if path = "" then name else path ++ "/" ++ name).toList)

/-- The identifier of a path of segments that starts at a path. -/
def descend (path : String) (segments : List String) : String := segments.foldl within path

def ofName (q : QualifiedName) : String := descend "" q.parts

theorem separator_separator (c : Char) : separator (separator c) = separator c := by
  unfold separator; split <;> simp_all

theorem encode_encode (cs : List Char) : encode (encode cs) = encode cs := by
  simp [encode, separator_separator]

theorem descend_append (path : String) (s t : List String) :
    descend path (s ++ t) = descend (descend path s) t := by
  simp [descend]

end NodeId

end ClassDiagram
