/-!
Identifiers of the DOT language. A bare word, a numeral or a markup string stands as it is; all
else is quoted, and so are the keywords. A quoted text has one escape, for the quote.
-/

namespace ClassDiagram.Dot

def keywords : List (List Char) :=
  ["node", "edge", "graph", "digraph", "subgraph", "strict"].map String.toList

def isWordStart (c : Char) : Bool := c.isAlpha || c = '_'

def isWordPart (c : Char) : Bool := c.isAlphanum || c = '_'

/-- A text without the line break that may end it. -/
def withoutFinalBreak (cs : List Char) : List Char :=
  if cs.getLast? = some '\n' then cs.dropLast else cs

def isWord : List Char → Bool
  | [] => false
  | c :: cs => isWordStart c && cs.all isWordPart

/-- Digits with at most one point, and at least one digit. -/
def isUnsigned (cs : List Char) : Bool :=
  match cs.dropWhile Char.isDigit with
  | [] => !cs.isEmpty
  | '.' :: fraction => fraction.all Char.isDigit && cs.any Char.isDigit
  | _ => false

def isNumeral : List Char → Bool
  | '-' :: cs => isUnsigned cs
  | cs => isUnsigned cs

/-- Markup begins with a left angle bracket and ends with a right one. -/
def isMarkup : List Char → Bool
  | '<' :: cs => (withoutFinalBreak cs).getLast? = some '>'
  | _ => false

/-- A text that can stand without quotes. -/
def isBare (cs : List Char) : Bool :=
  isMarkup cs
    || ((isWord (withoutFinalBreak cs) || isNumeral (withoutFinalBreak cs))
      && !(keywords.contains (cs.map Char.toLower)))

/-- Escapes the quotes of a text, behind a run of backslashes. A backslash that is left over
before a quote, when the run is taken in pairs, is the escape of that quote. -/
def escapeFrom (backslashes : Nat) : List Char → List Char
  | [] => List.replicate backslashes '\\'
  | c :: cs =>
    if c = '\\' then escapeFrom (backslashes + 1) cs
    else if c = '"' then
      List.replicate (backslashes - backslashes % 2) '\\' ++ '\\' :: '"' :: escapeFrom 0 cs
    else List.replicate backslashes '\\' ++ c :: escapeFrom 0 cs

def escape (cs : List Char) : List Char := escapeFrom 0 cs

/-- The written form of an identifier. -/
def quote (cs : List Char) : List Char :=
  if isBare cs then cs else '"' :: (escape cs ++ ['"'])

/-- A text up to its first colon, and what stands behind that. -/
def splitColon (cs : List Char) : List Char × List Char :=
  (cs.takeWhile (· ≠ ':'), (cs.dropWhile (· ≠ ':')).drop 1)

/-- The written form of the end of an edge: a node, and perhaps a field of its record and a
compass point. -/
def quoteEnd (cs : List Char) : List Char :=
  let (node, rest) := splitColon cs
  if rest = [] then quote node
  else
    let (field, compass) := splitColon rest
    quote node ++ ':' :: quote field ++ (if compass = [] then [] else ':' :: compass)

theorem splitColon_of_not_mem {cs : List Char} (h : ':' ∉ cs) : splitColon cs = (cs, []) := by
  induction cs with
  | nil => rfl
  | cons c cs ih =>
    simp only [List.mem_cons, not_or] at h
    have hc : c ≠ ':' := fun e => h.1 e.symm
    have ih := ih h.2
    simp_all [splitColon]

theorem quoteEnd_of_not_mem {cs : List Char} (h : ':' ∉ cs) : quoteEnd cs = quote cs := by
  simp [quoteEnd, splitColon_of_not_mem h]

end ClassDiagram.Dot
