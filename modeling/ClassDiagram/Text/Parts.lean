/-!
Texts in parts. A line feed, a carriage return, or the two in turn end a line; points part the
segments of a dotted name. `unify` writes all line ends alike; `join_segments` puts a name together
again, and `splitLast` parts off its last segment.
-/

namespace ClassDiagram.Text

namespace Lines

/-- Writes all line ends as line feeds. -/
def unify : List Char → List Char
  | [] => []
  | '\r' :: '\n' :: cs => '\n' :: unify cs
  | '\r' :: cs => '\n' :: unify cs
  | c :: cs => c :: unify cs

theorem carriageReturn_not_mem_unify (cs : List Char) : '\r' ∉ unify cs := by
  fun_induction unify cs <;> grind

end Lines

namespace Dotted

def segments (name : String) : List String := (name.toList.splitOn '.').map String.ofList

def join (parts : List String) : String := String.intercalate "." parts

theorem join_segments (name : String) : join (segments name) = name := by
  apply String.toList_injective
  rw [join, String.toList_intercalate, segments, List.map_map]
  have h : String.toList ∘ String.ofList = id := funext fun _ => String.toList_ofList
  rw [h, List.map_id]
  exact List.intercalate_splitOn '.'

/-- The first segment. -/
def head (name : String) : String := (segments name).headD ""

/-- The last segment, and what stands before the last point; that is empty if there is no
point. -/
def splitLast (name : String) : String × String :=
  (join (segments name).dropLast, (segments name).getLastD "")

end Dotted

end ClassDiagram.Text
