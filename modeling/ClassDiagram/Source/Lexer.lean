import ClassDiagram.Source.Formatted
import ClassDiagram.Source.Numeral
import ClassDiagram.Source.Token
import ClassDiagram.Text.Identifier
import ClassDiagram.Text.Parts

/-!
From characters to tokens. A text is read in rounds, each of which takes something from its front
(`round?`). The lines of a block are indented to one column; the column of a line is measured twice,
with tabs that reach the next multiple of eight and with tabs as wide as a blank, and both measures
have to tell the same.
-/

namespace ClassDiagram.Source.Lexer

/-! ## Line ends -/

/-- Ends the last line. A last line end of two characters gets a second one behind it. -/
def endLastLine (cs : List Char) : List Char :=
  let unified := Text.Lines.unify cs
  if unified.getLast? = some '\n' ∧ ¬ ['\r', '\n'].isSuffixOf cs then unified
  else unified ++ ['\n']

/-! ## Indentation -/

/-- The column of a line by the two measures. -/
structure Column where
  wide : Nat
  narrow : Nat
  deriving DecidableEq, Repr

def tabWidth : Nat := 8

/-- The most blocks that may be open at once, the whole text counted. -/
def maxBlocks : Nat := 100

/-- The most brackets that may be open at once. -/
def maxBrackets : Nat := 200

/-- Measures the blanks that a line begins with. A backslash before the line end goes on with the
next line, and the column of the first one that is not zero counts. -/
def measure (column : Column) (joined : Nat) : List Char → Option (Column × List Char)
  | ' ' :: cs => measure ⟨column.wide + 1, column.narrow + 1⟩ joined cs
  | '\t' :: cs => measure ⟨(column.wide / tabWidth + 1) * tabWidth, column.narrow + 1⟩ joined cs
  | '\x0c' :: cs => measure ⟨0, 0⟩ joined cs
  | '\\' :: '\n' :: c :: cs =>
    measure column (if joined = 0 then column.wide else joined) (c :: cs)
  | '\\' :: _ => none
  | cs => some (if joined = 0 then column else ⟨joined, joined⟩, cs)

/-- The tokens of a line's indentation, and the columns of the blocks that are open then. -/
def indentTo (column : Column) : List Column → Option (List Token × List Column)
  | [] => none
  | top :: blocks =>
    if column.wide = top.wide then
      if column.narrow = top.narrow then some ([], top :: blocks) else none
    else if top.wide < column.wide then
      if top.narrow < column.narrow ∧ (top :: blocks).length < maxBlocks then
        some ([.indent], column :: top :: blocks)
      else none
    else (dedentTo column blocks).map fun (tokens, open') => (.dedent :: tokens, open')
where
  dedentTo (column : Column) : List Column → Option (List Token × List Column)
    | [] => none
    | top :: blocks =>
      if column.wide < top.wide then
        (dedentTo column blocks).map fun (tokens, open') => (.dedent :: tokens, open')
      else if column = top then some ([], top :: blocks)
      else none

/-! ## String literals -/

structure StringPrefix where
  raw : Bool := false
  bytes : Bool := false
  formatted : Bool := false

/-- The letters in front of a string literal, if they may stand there. -/
def stringPrefix? (letters : List Char) : Option StringPrefix :=
  match letters.map Char.toLower with
  | [] | ['u'] => some {}
  | ['r'] => some { raw := true }
  | ['b'] => some { bytes := true }
  | ['f'] => some { formatted := true }
  | ['b', 'r'] | ['r', 'b'] => some { raw := true, bytes := true }
  | ['f', 'r'] | ['r', 'f'] => some { raw := true, formatted := true }
  | _ => none

/-- The body of a literal in single quotes, and what follows it. -/
def closeSingle (quote : Char) : List Char → Option (List Char × List Char)
  | [] | '\n' :: _ => none
  | '\\' :: c :: cs => (closeSingle quote cs).map fun (b, r) => ('\\' :: c :: b, r)
  | c :: cs =>
    if c = quote then some ([], cs)
    else (closeSingle quote cs).map fun (b, r) => (c :: b, r)

/-- The body of a literal in triple quotes, and what follows it. -/
def closeTriple (quote : Char) : List Char → Option (List Char × List Char)
  | [] => none
  | '\\' :: c :: cs => (closeTriple quote cs).map fun (b, r) => ('\\' :: c :: b, r)
  | c :: cs =>
    if [quote, quote, quote].isPrefixOf (c :: cs) then some ([], cs.drop 2)
    else (closeTriple quote cs).map fun (b, r) => (c :: b, r)

def closeQuote (quote : Char) (cs : List Char) : Option (List Char × List Char) :=
  if [quote, quote].isPrefixOf cs then closeTriple quote (cs.drop 2) else closeSingle quote cs

/-- What a string literal with this prefix and body is; `field` tells whether the text of a
replacement field is an expression. -/
def literal? (field : List Char → Bool) (p : StringPrefix) (body : List Char) : Option Literal :=
  if p.bytes then
    if (if p.raw then body.all (·.toNat < 128) else Literal.validBytes body) then some .bytes
    else none
  else if p.formatted then
    if Formatted.isValid field p.raw body then some .formatted else none
  else if p.raw then some (.text (body.map Char.toNat))
  else (Literal.decodeEscapes body).map .text

/-! ## Rounds -/

/-- What the reading of a text has to remember: the columns of the open blocks, the open brackets,
and whether a line begins here. -/
structure State where
  blocks : List Column := [⟨0, 0⟩]
  brackets : List Char := []
  lineStart : Bool := true

def isWordStart (c : Char) : Bool := c.isAlpha || c == '_' || 128 ≤ c.toNat

def word? (cs : List Char) : Option Token :=
  if cs.all (·.toNat < 128) || Text.Identifier.isIdentifier cs then some (.ofWord cs) else none

/-- The brackets that are open after a symbol; a closing bracket has to match. -/
def track (symbol : String) (brackets : List Char) : Option (List Char) :=
  match symbol.toList, brackets with
  | ['('], bs => if bs.length < maxBrackets then some (')' :: bs) else none
  | ['['], bs => if bs.length < maxBrackets then some (']' :: bs) else none
  | ['\x7b'], bs => if bs.length < maxBrackets then some ('\x7d' :: bs) else none
  | [c], bs =>
    if c == ')' || c == ']' || c == '\x7d' then
      match bs with
      | b :: bs => if b = c then some bs else none
      | [] => none
    else some bs
  | _, bs => some bs

def startsNumeral : List Char → Bool
  | '.' :: c :: _ | c :: _ => c.isDigit
  | [] => false

/-- What a round takes from the front of a text: the tokens that it gives, what there is to remember
behind it, and what is left of the text. -/
structure Round where
  tokens : List Token := []
  state : State
  rest : List Char

/-- The round at the start of a line. A line without text has no indentation, nor has one within
brackets. -/
def atLineStart? (s : State) (cs : List Char) : Option Round := do
  let (column, cs) ← measure ⟨0, 0⟩ 0 cs
  match cs with
  | '#' :: rest => return { state := s, rest := rest.dropWhile (· != '\n') }
  | '\n' :: rest => return { state := s, rest }
  | cs =>
    if !s.brackets.isEmpty then return { state := { s with lineStart := false }, rest := cs }
    else
      let (tokens, blocks) ← indentTo column s.blocks
      return { tokens, state := { s with blocks, lineStart := false }, rest := cs }

/-- A string literal behind its prefix and its first quote. -/
def string? (field : List Char → Bool) (s : State) (p : StringPrefix) (quote : Char)
    (cs : List Char) : Option Round := do
  let (body, rest) ← closeQuote quote cs
  return { tokens := [.text (← literal? field p body)], state := s, rest }

/-- What a character that may start a word begins: a word, or a string literal with a prefix. -/
def wordOrString? (field : List Char → Bool) (s : State) (c : Char) (cs : List Char) :
    Option Round :=
  let letters := c :: cs.takeWhile Numeral.isWordChar
  match cs.dropWhile Numeral.isWordChar, stringPrefix? letters with
  | '\'' :: rest, some p => string? field s p '\'' rest
  | '"' :: rest, some p => string? field s p '"' rest
  | rest, _ => do return { tokens := [← word? letters], state := s, rest }

def number? (s : State) (cs : List Char) : Option Round := do
  let (imaginary, rest) ← Numeral.scan cs
  return { tokens := [.number imaginary], state := s, rest }

def symbol? (s : State) (cs : List Char) : Option Round := do
  let (symbol, rest) ← Token.scanSymbol cs
  let brackets ← track symbol s.brackets
  return { tokens := [.mark symbol], state := { s with brackets }, rest }

/-- The end of a line gives a token, but not within brackets. -/
def lineEnd (s : State) (rest : List Char) : Round where
  tokens := if s.brackets.isEmpty then [.newline] else []
  state := { s with lineStart := true }
  rest

/-- A round within a line. -/
def withinLine? (field : List Char → Bool) (s : State) : List Char → Option Round
  | [] => none
  | ' ' :: cs | '\t' :: cs | '\x0c' :: cs => some { state := s, rest := cs }
  | '#' :: cs => some { state := s, rest := cs.dropWhile (· != '\n') }
  | '\n' :: cs => some (lineEnd s cs)
  | '\\' :: '\n' :: c :: cs => some { state := s, rest := c :: cs }
  | c :: cs =>
    if isWordStart c then wordOrString? field s c cs
    else if c == '\'' || c == '"' then string? field s {} c cs
    else if startsNumeral (c :: cs) then number? s (c :: cs)
    else symbol? s (c :: cs)

def round? (field : List Char → Bool) (s : State) (cs : List Char) : Option Round :=
  if s.lineStart then atLineStart? s cs else withinLine? field s cs

/-! ## The text -/

/-- Reads the tokens that are left of a text. It ends within a line, outside of brackets. -/
def scan (field : List Char → Bool) : Nat → State → List Char → Option (List Token)
  | 0, _, _ => none
  | fuel + 1, s, cs =>
    if cs.isEmpty && !s.lineStart then if s.brackets.isEmpty then some [] else none
    else do
      let round ← round? field s cs
      return round.tokens ++ (← scan field fuel round.state round.rest)

/-- The tokens of a text whose line ends are line feeds. -/
def tokens? (field : List Char → Bool) (cs : List Char) : Option (List Token) :=
  scan field (2 * cs.length + 2) {} cs

end ClassDiagram.Source.Lexer
