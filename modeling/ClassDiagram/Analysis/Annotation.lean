import ClassDiagram.Source.Program
import ClassDiagram.Text.Quoted

/-!
Annotations that are written as string literals: the value of the literal is read as an
expression. Its own literals are shorter than the text it was read from, so reading again and
again comes to an end (`Annotation.expression?`).
-/

namespace ClassDiagram

open Source (Expr)
open Text (CodePoint)

/-- Why a text cannot be read at all, whatever the grammar. -/
inductive TextFault
  /-- The text holds the code point zero. -/
  | nullCharacter
  /-- A run of surrogates, from position `first` to `last`, begins with `code`. -/
  | surrogates (code : CodePoint) (first last : Nat)
  deriving DecidableEq, Repr

namespace TextFault

def message : TextFault → String
  | nullCharacter => "source code string cannot contain null bytes"
  | surrogates code first last =>
    if first = last then
      "'utf-8' codec can't encode character '\\u" ++ String.ofList (hex code) ++ "' in position "
        ++ toString first ++ ": surrogates not allowed"
    else
      "'utf-8' codec can't encode characters in position " ++ toString first ++ "-"
        ++ toString last ++ ": surrogates not allowed"
where
  hex (code : CodePoint) : List Char := Text.Quoted.hexDigits 4 code

end TextFault

namespace Annotation

def isSurrogate (c : CodePoint) : Bool := 0xD800 ≤ c && c < 0xE000

/-- The first fault of a text. -/
def fault? (value : List CodePoint) : Option TextFault :=
  match value.dropWhile (!isSurrogate ·) with
  | code :: rest =>
    let first := (value.takeWhile (!isSurrogate ·)).length
    some (.surrogates code first (first + (rest.takeWhile isSurrogate).length))
  | [] => if value.contains 0 then some .nullCharacter else none

/-- The expression that a text holds, if it holds one. -/
def expression? (value : List CodePoint) :
    Except TextFault (Option { e : Expr // e.longestText < value.length }) :=
  match fault? value with
  | some fault => .error fault
  | none =>
    match Expr.ofText? (value.map Char.ofNat) with
    | some e => if h : e.longestText < value.length then .ok (some ⟨e, h⟩) else .ok none
    | none => .ok none

end Annotation

end ClassDiagram
