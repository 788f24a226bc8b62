import Mathlib.Data.List.TakeWhile
import ClassDiagram.Diagram.Graph
import ClassDiagram.Dot.Identifier

/-!
A reader of the DOT language, for directed graphs: identifiers, numerals and quoted texts,
statement lists, nested subgraphs and attribute lists. Markup, comments and the ports of edges are
left out; a text with one of them is not read.

* `tokens?` cuts a text into tokens; `token?_length` bounds what is left behind each;
* `Draft.read` takes statements from the front of the tokens and puts what they say into the scope
  that is open; `Draft.read_keyword` and `Draft.read_id` say what it does with attributes;
* `Diagram.ofText?` is the diagram that a text describes.
-/

namespace ClassDiagram.Dot

open Diagram (Cluster Edge Node)

/-! ## Tokens -/

inductive Keyword
  | node
  | edge
  | graph
  | digraph
  | subgraph
  | strict
  deriving DecidableEq, Repr

namespace Keyword

def all : List Keyword := [node, edge, graph, digraph, subgraph, strict]

def text : Keyword → List Char
  | node => "node".toList
  | edge => "edge".toList
  | graph => "graph".toList
  | digraph => "digraph".toList
  | subgraph => "subgraph".toList
  | strict => "strict".toList

/-- The keyword that a word is, in capitals or not. -/
def ofWord? (word : List Char) : Option Keyword := all.find? (·.text == word.map Char.toLower)

end Keyword

inductive Token
  | id (text : String)
  | keyword (k : Keyword)
  | leftBrace
  | rightBrace
  | leftBracket
  | rightBracket
  | equals
  | comma
  | semicolon
  | arrow
  deriving DecidableEq, Repr

def sign? : Char → Option Token
  | '{' => some .leftBrace
  | '}' => some .rightBrace
  | '[' => some .leftBracket
  | ']' => some .rightBracket
  | '=' => some .equals
  | ',' => some .comma
  | ';' => some .semicolon
  | _ => none

def isBlank (c : Char) : Bool := c = ' ' || c = '\t' || c = '\n' || c = '\r'

/-- All characters beyond the first 128 count as letters. -/
def isLetter (c : Char) : Bool := c.isAlpha || c = '_' || 128 ≤ c.toNat

def isWordCharacter (c : Char) : Bool := isLetter c || c.isDigit

/-- A quoted text, up to the quote that ends it, and what is behind that. A backslash before a
quote is the escape of the quote; everywhere else it stands for itself. -/
def quoted? : List Char → Option (List Char × List Char)
  | [] => none
  | '"' :: rest => some ([], rest)
  | '\\' :: '"' :: rest => (quoted? rest).map fun (text, rest) => ('"' :: text, rest)
  | c :: rest => (quoted? rest).map fun (text, rest) => (c :: text, rest)

/-- Digits, perhaps with a point among them, and what is behind them. -/
def digits (cs : List Char) : List Char × List Char :=
  match cs.dropWhile Char.isDigit with
  | '.' :: rest =>
    (cs.takeWhile Char.isDigit ++ '.' :: rest.takeWhile Char.isDigit, rest.dropWhile Char.isDigit)
  | rest => (cs.takeWhile Char.isDigit, rest)

/-- A numeral has a digit. -/
def unsigned? (cs : List Char) : Option (List Char × List Char) :=
  if (digits cs).1.any Char.isDigit then some (digits cs) else none

def numeral? : List Char → Option (List Char × List Char)
  | '-' :: cs => (unsigned? cs).map fun (number, rest) => ('-' :: number, rest)
  | cs => unsigned? cs

def ofWord (word : List Char) : Token :=
  match Keyword.ofWord? word with
  | some k => .keyword k
  | none => .id (String.ofList word)

/-- The token that begins with a character, and what is behind it. -/
def token? (c : Char) (cs : List Char) : Option (Token × List Char) :=
  match sign? c with
  | some t => some (t, cs)
  | none =>
    if c = '"' then (quoted? cs).map fun (text, rest) => (.id (String.ofList text), rest)
    else if isLetter c then
      some (ofWord (c :: cs.takeWhile isWordCharacter), cs.dropWhile isWordCharacter)
    else if c = '-' ∧ cs.head? = some '>' then some (.arrow, cs.tail)
    else (numeral? (c :: cs)).map fun (text, rest) => (.id (String.ofList text), rest)

theorem quoted?_length {cs text rest : List Char} (h : quoted? cs = some (text, rest)) :
    rest.length < cs.length := by
  fun_induction quoted? cs generalizing text with
  | case1 => cases h
  | case2 tail =>
    cases h
    exact Nat.lt_succ_self _
  | case3 tail ih | case4 c tail _ _ ih =>
    obtain ⟨⟨t, r⟩, ht, he⟩ := Option.map_eq_some_iff.mp h
    cases he
    have := ih ht
    simp only [List.length_cons]; omega

theorem digits_length (cs : List Char) :
    (digits cs).1.length + (digits cs).2.length = cs.length := by
  have hsplit : ∀ l : List Char,
      (l.takeWhile Char.isDigit).length + (l.dropWhile Char.isDigit).length = l.length := by
    intro l
    rw [← List.length_append, List.takeWhile_append_dropWhile]
  have h := hsplit cs
  unfold digits
  split
  · rename_i rest hrest
    have hrest' := hsplit rest
    simp only [hrest, List.length_cons, List.length_append] at h ⊢
    omega
  · exact h

theorem unsigned?_length {cs number rest : List Char} (h : unsigned? cs = some (number, rest)) :
    rest.length < cs.length := by
  unfold unsigned? at h
  split at h
  · rename_i hdigit
    have hlength := digits_length cs
    rw [Option.some.inj h] at hdigit hlength
    cases number with
    | nil => exact absurd hdigit (by simp)
    | cons c number => simp only [List.length_cons] at hlength; omega
  · cases h

theorem numeral?_length {cs number rest : List Char} (h : numeral? cs = some (number, rest)) :
    rest.length < cs.length := by
  unfold numeral? at h
  split at h
  · obtain ⟨⟨n, r⟩, hn, he⟩ := Option.map_eq_some_iff.mp h
    cases he
    exact Nat.lt_succ_of_lt (unsigned?_length hn)
  · exact unsigned?_length h

theorem token?_length {c : Char} {cs rest : List Char} {t : Token}
    (h : token? c cs = some (t, rest)) : rest.length ≤ cs.length := by
  unfold token? at h
  split at h
  · cases h
    exact Nat.le_refl _
  split at h
  · obtain ⟨⟨text, r⟩, hq, he⟩ := Option.map_eq_some_iff.mp h
    cases he
    exact Nat.le_of_lt (quoted?_length hq)
  split at h
  · cases h
    exact List.length_dropWhile_le _ _
  split at h
  · cases h
    rw [List.length_tail]
    exact Nat.sub_le _ _
  · obtain ⟨⟨text, r⟩, hn, he⟩ := Option.map_eq_some_iff.mp h
    cases he
    exact Nat.le_of_lt_succ (numeral?_length hn)

/-- The tokens of a text. -/
def tokens? : List Char → Option (List Token)
  | [] => some []
  | c :: cs =>
    if isBlank c then tokens? cs
    else
      match _h : token? c cs with
      | none => none
      | some (t, rest) => (tokens? rest).map (t :: ·)
termination_by cs => cs.length
decreasing_by
  · exact Nat.lt_succ_self _
  · exact Nat.lt_succ_of_le (token?_length _h)

theorem tokens?_nil : tokens? [] = some [] := by rw [tokens?]

theorem tokens?_blank {c : Char} (h : isBlank c = true) (cs : List Char) :
    tokens? (c :: cs) = tokens? cs := by
  rw [tokens?, if_pos h]

theorem tokens?_token {c : Char} {cs rest : List Char} {t : Token} (hc : isBlank c = false)
    (h : token? c cs = some (t, rest)) : tokens? (c :: cs) = (tokens? rest).map (t :: ·) := by
  rw [tokens?, if_neg (by simp [hc])]
  split
  · rename_i hnone
    rw [h] at hnone
    cases hnone
  · rename_i t' rest' hsome
    rw [h] at hsome
    cases hsome
    rfl

/-! ## Attribute lists and edges -/

/-- Assignments up to the bracket that ends their list, and what is behind that. -/
def assignments? : List Token → Option (List (String × String) × List Token)
  | .rightBracket :: rest => some ([], rest)
  | .id key :: .equals :: .id value :: .comma :: rest
  | .id key :: .equals :: .id value :: .semicolon :: rest
  | .id key :: .equals :: .id value :: rest =>
    (assignments? rest).map fun (more, rest) => ((key, value) :: more, rest)
  | _ => none

theorem assignments?_length {ts rest : List Token} {pairs : List (String × String)}
    (h : assignments? ts = some (pairs, rest)) : rest.length < ts.length := by
  fun_induction assignments? ts generalizing pairs with
  | case1 tail =>
    cases h
    exact Nat.lt_succ_self _
  | case2 key value tail ih | case3 key value tail ih | case4 key value tail _ _ ih =>
    obtain ⟨⟨more, r⟩, hm, he⟩ := Option.map_eq_some_iff.mp h
    cases he
    have := ih hm
    simp only [List.length_cons]; omega
  | case5 => cases h

/-- The attributes in the lists at the front of tokens, and what is behind these. -/
def attributes? (ts : List Token) : Option (List (String × String) × List Token) :=
  match ts with
  | .leftBracket :: rest =>
    match _h : assignments? rest with
    | none => none
    | some (pairs, rest) => (attributes? rest).map fun (more, rest) => (pairs ++ more, rest)
  | rest => some ([], rest)
termination_by ts.length
decreasing_by
  exact Nat.lt_succ_of_lt (assignments?_length _h)

theorem attributes?_bracket {ts behind : List Token} {pairs : List (String × String)}
    (h : assignments? ts = some (pairs, behind)) :
    attributes? (.leftBracket :: ts)
      = (attributes? behind).map fun (more, rest) => (pairs ++ more, rest) := by
  rw [attributes?]
  split
  · rename_i hnone
    rw [h] at hnone
    cases hnone
  · rename_i hsome
    rw [h] at hsome
    cases hsome
    rfl

theorem attributes?_length {ts rest : List Token} {pairs : List (String × String)}
    (h : attributes? ts = some (pairs, rest)) : rest.length ≤ ts.length := by
  fun_induction attributes? ts generalizing pairs rest with
  | case1 tail hnone => cases h
  | case2 tail first behind hfirst ih =>
    obtain ⟨⟨more, r⟩, hm, he⟩ := Option.map_eq_some_iff.mp h
    cases he
    have := assignments?_length hfirst
    have := ih hm
    simp only [List.length_cons]; omega
  | case3 ts =>
    cases h
    exact Nat.le_refl _

/-- The heads of the edges that go on from a node, and what is behind them. -/
def heads : List Token → List String × List Token
  | .arrow :: .id head :: rest => (head :: (heads rest).1, (heads rest).2)
  | rest => ([], rest)

theorem heads_length (ts : List Token) : (heads ts).2.length ≤ ts.length := by
  fun_induction heads ts with
  | case1 head rest ih => simp only [List.length_cons]; omega
  | case2 => exact Nat.le_refl _

/-- The edges of a path, all with the same attributes. -/
def path (attributes : Attributes) : String → List String → List Edge
  | _, [] => []
  | tail, head :: rest => ⟨tail, head, attributes⟩ :: path attributes head rest

/-! ## Diagrams -/

/-- A diagram of which the front is read: the scope that is open, and those around it from the
inside to the outside. -/
structure Draft where
  scope : Cluster
  outer : List Cluster := []
  nodeDefaults : Attributes := []
  edgeDefaults : Attributes := []

namespace Draft

def modify (d : Draft) (f : Cluster → Cluster) : Draft := { d with scope := f d.scope }

/-- Opens a scope in the one that is open. -/
def enter (d : Draft) (name : String) : Draft :=
  { d with scope := { name }, outer := d.scope :: d.outer }

/-- Sets what a keyword names. Only the outermost scope has defaults for nodes and edges. -/
def setDefaults? (d : Draft) (k : Keyword) (pairs : List (String × String)) : Option Draft :=
  match k, d.outer with
  | .graph, _ => some (d.modify fun c => { c with attributes := c.attributes.putAll pairs })
  | .node, [] => some { d with nodeDefaults := d.nodeDefaults.putAll pairs }
  | .edge, [] => some { d with edgeDefaults := d.edgeDefaults.putAll pairs }
  | _, _ => none

/-- A node, or the edges that go on from it. -/
def addStatement (d : Draft) (first : String) (heads : List String)
    (pairs : List (String × String)) : Draft :=
  let attributes := Dictionary.putAll [] pairs
  if heads = [] then d.modify (·.addNode ⟨first, attributes⟩)
  else d.modify fun c => { c with edges := c.edges ++ path attributes first heads }

/-- Takes statements from the front of tokens until the outermost scope ends. -/
def read (d : Draft) (ts : List Token) : Option Diagram :=
  match ts with
  | .rightBrace :: rest =>
    match d.outer with
    | [] => if rest = [] then some ⟨d.scope, d.nodeDefaults, d.edgeDefaults⟩ else none
    | c :: outer => read { d with scope := c.addCluster d.scope, outer } rest
  | .semicolon :: rest => read d rest
  | .keyword .subgraph :: .id name :: .leftBrace :: rest => read (d.enter name) rest
  | .keyword .subgraph :: .leftBrace :: rest => read (d.enter "") rest
  | .leftBrace :: rest => read (d.enter "") rest
  | .keyword k :: .leftBracket :: rest =>
    match _h : attributes? (.leftBracket :: rest) with
    | none => none
    | some (pairs, rest) => d.setDefaults? k pairs >>= (read · rest)
  | .id key :: .equals :: .id value :: rest => read (d.modify (·.set key value)) rest
  | .id first :: rest =>
    match _h : attributes? (heads rest).2 with
    | none => none
    | some (pairs, behind) => read (d.addStatement first (heads rest).1 pairs) behind
  | _ => none
termination_by ts.length
decreasing_by
  all_goals simp only [List.length_cons]
  · omega
  · omega
  · omega
  · omega
  · omega
  · have := attributes?_length _h
    simp only [List.length_cons] at this
    omega
  · omega
  · have := attributes?_length _h
    have := heads_length rest
    omega

theorem read_keyword {d : Draft} {k : Keyword} {ts behind : List Token}
    {pairs : List (String × String)} (h : attributes? (.leftBracket :: ts) = some (pairs, behind)) :
    d.read (.keyword k :: .leftBracket :: ts) = d.setDefaults? k pairs >>= (read · behind) := by
  rw [read]
  split
  · rename_i hnone
    rw [h] at hnone
    cases hnone
  · rename_i hsome
    rw [h] at hsome
    cases hsome
    rfl

theorem read_id {d : Draft} {first : String} {ts behind : List Token}
    {pairs : List (String × String)} (hassigned : ∀ value rest, ts ≠ .equals :: .id value :: rest)
    (h : attributes? (heads ts).2 = some (pairs, behind)) :
    d.read (.id first :: ts) = (d.addStatement first (heads ts).1 pairs).read behind := by
  rw [read]
  · split
    · rename_i hnone
      rw [h] at hnone
      cases hnone
    · rename_i hsome
      rw [h] at hsome
      cases hsome
      rfl
  · exact hassigned

end Draft

end ClassDiagram.Dot

namespace ClassDiagram

open Dot

/-- The diagram that a text describes, if it describes one. -/
def Diagram.ofText? (text : String) : Option Diagram :=
  match tokens? text.toList with
  | some (.keyword .digraph :: .id name :: .leftBrace :: rest) =>
    Draft.read { scope := { name } } rest
  | some (.keyword .digraph :: .leftBrace :: rest) => Draft.read { scope := { name := "" } } rest
  | _ => none

end ClassDiagram
