import ClassDiagram.Source.Literal

/-!
Formatted string literals. `isValid` goes through the body of one: literal text with doubled
braces, and replacement fields of an expression, an optional conversion and an optional format,
which may hold fields of its own. Whether the text of an expression is one is told by `field`.
-/

namespace ClassDiagram.Source.Formatted

/-- Fields may stand in the format of a field, but no deeper. -/
def maxDepth : Nat := 2

/-- The most brackets that may be open at once in a field. -/
def maxBrackets : Nat := 200

def isFieldBlank (c : Char) : Bool :=
  c == ' ' || c == '\t' || c == '\n' || c == '\x0c'

def isBlank (c : Char) : Bool :=
  isFieldBlank c || c == '\r' || c == '\x0b'

def closes (opened c : Char) : Bool :=
  (opened == '(' && c == ')') || (opened == '[' && c == ']') || (opened == '\x7b' && c == '\x7d')

/-- A quote that a field is inside of. -/
structure Quote where
  mark : Char
  triple : Bool

/-- The text of the expression that a field begins with, and the rest, which starts with the mark
that ends the expression. `opened` are the open brackets. -/
def expressionText (quote : Option Quote) (opened : List Char) :
    List Char → Option (List Char × List Char)
  | [] => none
  | [c] =>
    match quote, opened with
    | none, [] =>
      if c == '!' || c == ':' || c == '\x7d' || c == '=' then some ([], [c]) else none
    | _, _ => none
  | c :: d :: cs =>
    let keep (result : Option (List Char × List Char)) := result.map fun (e, r) => (c :: e, r)
    if c == '\\' then none
    else match quote with
    | some q =>
      if c != q.mark then keep (expressionText quote opened (d :: cs))
      else if !q.triple then keep (expressionText none opened (d :: cs))
      else match d, cs with
        | d, e :: rest =>
          if d == q.mark && e == q.mark then
            (expressionText none opened rest).map fun (t, r) => (c :: d :: e :: t, r)
          else keep (expressionText quote opened (d :: e :: rest))
        | _, [] => none
    | none =>
      if c == '\'' || c == '"' then
        match cs with
        | e :: rest =>
          if d == c && e == c then
            (expressionText (some ⟨c, true⟩) opened rest).map fun (t, r) => (c :: d :: e :: t, r)
          else keep (expressionText (some ⟨c, false⟩) opened (d :: e :: rest))
        | [] => keep (expressionText (some ⟨c, false⟩) opened [d])
      else if c == '(' || c == '[' || c == '\x7b' then
        if opened.length < maxBrackets then keep (expressionText none (c :: opened) (d :: cs))
        else none
      else if c == '#' then none
      else if opened.isEmpty && (c == '!' || c == '=' || c == '<' || c == '>') && d == '=' then
        (expressionText none opened cs).map fun (t, r) => (c :: d :: t, r)
      else if opened.isEmpty && (c == '!' || c == ':' || c == '\x7d' || c == '=') then
        some ([], c :: d :: cs)
      else if c == ')' || c == ']' || c == '\x7d' then
        match opened with
        | o :: os => if closes o c then keep (expressionText none os (d :: cs)) else none
        | [] => none
      else keep (expressionText none opened (d :: cs))

/-- The text up to a brace that is not doubled. The flag tells that a doubled brace ended the
text, whose second half is skipped. Braces are doubled at the top only. -/
def literalText (raw top : Bool) : Nat → List Char → Option (List Char × Bool × List Char)
  | 0, _ => none
  | _ + 1, [] => some ([], false, [])
  | fuel + 1, c :: cs =>
    let keep (head : List Char) (rest : List Char) :=
      (literalText raw top fuel rest).map fun (t, more, r) => (head ++ t, more, r)
    let plain (head : List Char) (c : Char) (cs : List Char) :=
      if c == '\x7b' || c == '\x7d' then
        if top && cs.head? == some c then some (head ++ [c], true, cs.tail)
        else if top && c == '\x7d' then none
        else some (head, false, c :: cs)
      else keep (head ++ [c]) cs
    if c == '\\' && !raw then
      match cs with
      | [] => some ([c], false, [])
      | 'N' :: '\x7b' :: rest =>
        let name := rest.takeWhile (· != '\x7d')
        let close := (rest.drop name.length).take 1
        keep ('\\' :: 'N' :: '\x7b' :: name ++ close) (rest.drop (name.length + 1))
      | 'N' :: _ => none
      | d :: rest => plain [c] d rest
    else plain [] c cs

mutual

/-- Goes through a body, or a format at a depth above zero, and gives what is left of it. -/
def body (field : List Char → Bool) (raw : Bool) (depth : Nat) :
    Nat → List Char → Option (List Char)
  | 0, _ => none
  | fuel + 1, cs =>
    match literalText raw (depth == 0) (cs.length + 1) cs with
    | none => none
    | some (text, more, rest) =>
      if !raw && (Literal.decodeEscapes text).isNone then none
      else if more then body field raw depth fuel rest
      else match rest with
        | '\x7b' :: rest => replacement field raw depth fuel rest >>= body field raw depth fuel
        | rest => some rest

/-- Goes through a field behind its opening brace and gives what follows it. -/
def replacement (field : List Char → Bool) (raw : Bool) (depth : Nat) :
    Nat → List Char → Option (List Char)
  | 0, _ => none
  | fuel + 1, cs =>
    if maxDepth ≤ depth then none
    else match expressionText none [] cs with
    | none => none
    | some (text, rest) =>
      if text.all isFieldBlank || !field text then none
      else
        let rest := match rest with
          | '=' :: rest => rest.dropWhile isBlank
          | rest => rest
        let converted := match rest with
          | '!' :: c :: rest => if c == 's' || c == 'r' || c == 'a' then some rest else none
          | ['!'] => none
          | rest => some rest
        let formatted := match converted with
          | some (':' :: rest) => body field raw (depth + 1) fuel rest
          | other => other
        match formatted with
        | some ('\x7d' :: rest) => some rest
        | _ => none

end

/-- The body of a formatted literal is well formed. -/
def isValid (field : List Char → Bool) (raw : Bool) (cs : List Char) : Bool :=
  body field raw 0 (cs.length + 2) cs == some []

end ClassDiagram.Source.Formatted
