/-!
Tables of code points, written as text. A table is a text of words parted by blanks; a word holds
hexadecimal numbers parted by single marks. Looking a code point up is a binary search.
-/

namespace ClassDiagram.Text

/-- A code point; unlike `Char` it may be a surrogate. -/
abbrev CodePoint := Nat

/-- A code point that words are made of: a letter or a digit of ASCII, an underscore, or any
character beyond ASCII. -/
def isWordCode (c : CodePoint) : Bool :=
  if c < 128 then (Char.ofNat c).isAlphanum || c == '_'.toNat else decide c.isValidChar

namespace CodeTable

def hexDigit (c : Char) : Nat :=
  if c.isDigit then c.toNat - '0'.toNat else c.toNat - 'A'.toNat + 10

def hexNumber (cs : List Char) : Nat :=
  cs.foldl (fun n c => 16 * n + hexDigit c) 0

/-- The numbers of the words of a table, one list for each word. -/
def rows (text : String) : List (List Nat) :=
  (text.toList.splitBy fun a b => a.isWhitespace == b.isWhitespace).filterMap fun word =>
    if word.any Char.isWhitespace then none
    else some (word.splitOn '-' |>.map hexNumber)

/-- An inclusive range of code points. -/
structure Span where
  first : CodePoint
  last : CodePoint
  deriving DecidableEq, Repr

def spans (text : String) : Array Span :=
  (rows text).toArray.map fun
    | [a] => ⟨a, a⟩
    | a :: b :: _ => ⟨a, b⟩
    | [] => ⟨0, 0⟩

/-- The last position below `hi` whose key is at most `k`, if one lies in `[lo, hi)`. -/
def lastAtMost {α : Type} (key : α → Nat) (rows : Array α) (k lo hi : Nat) : Option α :=
  if lo < hi then
    let mid := (lo + hi) / 2
    match rows[mid]? with
    | none => none
    | some row =>
      if key row ≤ k then
        match lastAtMost key rows k (mid + 1) hi with
        | some later => some later
        | none => some row
      else lastAtMost key rows k lo mid
  else none
termination_by hi - lo

def mem (spans : Array Span) (c : CodePoint) : Bool :=
  match lastAtMost Span.first spans c 0 spans.size with
  | some span => c ≤ span.last
  | none => false

end CodeTable

end ClassDiagram.Text
