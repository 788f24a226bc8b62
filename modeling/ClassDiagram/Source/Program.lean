import ClassDiagram.Source.Lexer
import ClassDiagram.Source.Stmt.Grammar

/-!
From texts to programs and to single expressions. The replacement fields of formatted strings
hold expressions, so the reading of a text calls itself on texts inside its literals
(`isField`); these are shorter.
-/

namespace ClassDiagram.Source

namespace Program

/-- The text of a replacement field is an expression; fields nest no deeper than `depth`. -/
def isField (depth : Nat) (text : List Char) : Bool :=
  match depth with
  | 0 => false
  | depth + 1 =>
    match Lexer.tokens? (isField depth) ('(' :: text ++ [')', '\n']) with
    | some tokens =>
      (Expr.Grammar.starExpressions (Expr.Grammar.read (tokens.length + 1)) tokens).isSome
    | none => false

/-- The statements of a text; none if it is no program. -/
def ofText? (text : List Char) : Option (List Stmt) :=
  Lexer.tokens? (isField text.length) (Lexer.endLastLine text) >>= Stmt.Grammar.readAll

end Program

namespace Expr

/-- Reads all tokens as one expression, which line ends may follow. -/
def ofTokens? (tokens : List Token) : Option Expr :=
  match Grammar.expressions (Grammar.read (tokens.length + 1)) tokens with
  | some (e, rest) => if rest.all (· == .newline) then some e else none
  | none => none

/-- The expression that a text holds; none if it holds none. -/
def ofText? (text : List Char) : Option Expr :=
  Lexer.tokens? (Program.isField text.length) (Text.Lines.unify text) >>= ofTokens?

end Expr

end ClassDiagram.Source
