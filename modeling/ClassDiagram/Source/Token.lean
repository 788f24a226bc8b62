import ClassDiagram.Source.Literal

/-!
Tokens. Line ends and changes of indentation are tokens; blanks, comments and line ends inside
brackets are not.
-/

namespace ClassDiagram.Source

inductive Token
  /-- A name as it is written; `Text.Normal.normalize` gives the identifier that it stands for. -/
  | name (written : String)
  | keyword (word : String)
  | number (imaginary : Bool)
  | text (literal : Literal)
  | mark (symbol : String)
  | newline
  | indent
  | dedent
  deriving DecidableEq, Repr

namespace Token

def keywords : List String :=
  ["False", "None", "True", "and", "as", "assert", "async", "await", "break", "class",
   "continue", "def", "del", "elif", "else", "except", "finally", "for", "from", "global", "if",
   "import", "in", "is", "lambda", "nonlocal", "not", "or", "pass", "raise", "return", "try",
   "while", "with", "yield"]

def ofWord (cs : List Char) : Token :=
  let word := String.ofList cs
  if word ∈ keywords then keyword word else name word

def symbols : List String :=
  ["**=", "//=", "<<=", ">>=", "...",
   "!=", "%=", "&=", "**", "*=", "+=", "-=", "->", "//", "/=", ":=", "<<", "<=", "==", ">=",
   ">>", "@=", "^=", "|=",
   "%", "&", "(", ")", "*", "+", ",", "-", ".", "/", ":", ";", "<", "=", ">", "@", "[", "]",
   "^", "\x7b", "|", "\x7d", "~"]

/-- The longest symbol at the front, and the rest. -/
def scanSymbol (cs : List Char) : Option (String × List Char) :=
  symbols.findSome? fun symbol =>
    if symbol.toList.isPrefixOf cs then some (symbol, cs.drop symbol.length) else none

end Token

end ClassDiagram.Source
