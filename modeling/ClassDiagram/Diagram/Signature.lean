import ClassDiagram.Model.Element

/-!
The lines that show the members of an element. Each begins with a glyph for the visibility; a label
lists private members first, then protected ones, then public ones, and ends each line with a mark
that aligns it to the left.
-/

namespace ClassDiagram

/-- The mark that ends a line and aligns it to the left. -/
def lineBreak : String := "\\l"

namespace Visibility

def glyph : Visibility → String
  | pub => "+"
  | prot => "~"
  | priv => "-"

/-- The members of each visibility in turn, in the order they had. -/
def sort {α : Type} (visibility : α → Visibility) (members : List α) : List α :=
  all.flatMap fun v => members.filter (visibility · = v)

theorem mem_all (v : Visibility) : v ∈ all := by cases v <;> decide

theorem mem_sort {α : Type} {visibility : α → Visibility} {members : List α} {a : α} :
    a ∈ sort visibility members ↔ a ∈ members := by
  simp [sort, mem_all]

end Visibility

def Lifetime.mark : Lifetime → String
  | static => "\\<static\\>"
  | perInstance => ""

namespace Signature

variable {ρ α : Type}

/-- The line of a method. -/
def method (h : Header ρ) : String :=
  " ".intercalate [h.visibility.glyph, h.lifetime.mark, h.name ++ "()"]

def accessors (p : Property ρ) : List String :=
  (if p.hasGetter then ["get"] else []) ++ (if p.hasSetter then ["set"] else [])

/-- The line of a property, with its accessors. -/
def property (p : Property ρ) : String :=
  " ".intercalate
    [p.header.visibility.glyph, p.header.lifetime.mark, "/".intercalate (accessors p), p.name]

/-- The lines of members, sorted by visibility. -/
def combine (visibility : α → Visibility) (line : α → String) (members : List α) : String :=
  String.join ((Visibility.sort visibility members).map fun a => line a ++ lineBreak)

def methods (ms : List (Method ρ)) : String :=
  combine (·.header.visibility) (fun m => method m.header) ms

def properties (ps : List (Property ρ)) : String :=
  combine (·.header.visibility) property ps

/-- The lines of members, or the first error that the lines in their sorted order give. -/
def combine? {ε : Type} (visibility : α → Visibility) (line : α → Except ε String)
    (members : List α) : Except ε String := do
  let lines ← (Visibility.sort visibility members).mapM line
  return String.join (lines.map (· ++ lineBreak))

end Signature

end ClassDiagram
