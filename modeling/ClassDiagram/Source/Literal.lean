import ClassDiagram.Text.CharacterName
import ClassDiagram.Text.CodeTable

/-!
The inside of string literals: the escapes of a text (`decodeEscapes`) and those of a byte string
(`validBytes`).
-/

namespace ClassDiagram.Source

open Text (CodePoint)

/-- What a string literal is: a text with its value, a byte string, or a formatted string. -/
inductive Literal
  | text (value : List CodePoint)
  | bytes
  | formatted
  deriving DecidableEq, Repr

namespace Literal

def hexValue? (c : Char) : Option Nat :=
  if c.isDigit then some (c.toNat - '0'.toNat)
  else if 'a' ≤ c ∧ c ≤ 'f' then some (c.toNat - 'a'.toNat + 10)
  else if 'A' ≤ c ∧ c ≤ 'F' then some (c.toNat - 'A'.toNat + 10)
  else none

def hexDigits? (cs : List Char) : Option Nat :=
  cs.foldl (fun n c => do return 16 * (← n) + (← hexValue? c)) (some 0)

/-- Exactly `width` hexadecimal digits at the front, as a number, and the rest. -/
def fixedHex? (width : Nat) (cs : List Char) : Option (Nat × List Char) :=
  if cs.length < width then none
  else (hexDigits? (cs.take width)).map (·, cs.drop width)

def isOctal (c : Char) : Bool := '0' ≤ c && c ≤ '7'

def octalNumber (cs : List Char) : Nat :=
  cs.foldl (fun n c => 8 * n + (c.toNat - '0'.toNat)) 0

/-- The character that a name in braces at the front stands for, and the rest. Names are those of
the tables and rules in `Text.CharacterName`, which cover the scripts in wide use and not all of
Unicode; any other name counts as none, so a text with it in a literal is not grammatical. -/
def named? : List Char → Option (CodePoint × List Char)
  | '\x7b' :: cs =>
    match cs.dropWhile (· ≠ '\x7d') with
    | [] => none
    | _ :: rest =>
      (Text.CharacterName.code? (cs.takeWhile (· ≠ '\x7d'))).map fun n => (n, rest)
  | _ => none

/-- The value of the escape that the characters after a backslash begin with, and the rest. A
character that makes no escape keeps its backslash. -/
def escape? : List Char → Option (List CodePoint × List Char)
  | [] => some (['\\'.toNat], [])
  | c :: cs =>
    match c with
    | '\n' => some ([], cs)
    | '\\' | '\'' | '"' => some ([c.toNat], cs)
    | 'a' => some ([7], cs)
    | 'b' => some ([8], cs)
    | 't' => some ([9], cs)
    | 'n' => some ([10], cs)
    | 'v' => some ([11], cs)
    | 'f' => some ([12], cs)
    | 'r' => some ([13], cs)
    | 'x' => (fixedHex? 2 cs).map fun (n, rest) => ([n], rest)
    | 'u' => (fixedHex? 4 cs).map fun (n, rest) => ([n], rest)
    | 'N' => (named? cs).map fun (n, rest) => ([n], rest)
    | 'U' => do
      let (n, rest) ← fixedHex? 8 cs
      if n ≤ 0x10FFFF then some ([n], rest) else none
    | _ =>
      if isOctal c then
        let digits := ((c :: cs).take 3).takeWhile isOctal
        some ([octalNumber digits], (c :: cs).drop digits.length)
      else some (['\\'.toNat, c.toNat], cs)

def decodeLoop : Nat → List Char → Option (List CodePoint)
  | 0, cs => if cs.isEmpty then some [] else none
  | _ + 1, [] => some []
  | fuel + 1, '\\' :: cs => do
    let (value, rest) ← escape? cs
    return value ++ (← decodeLoop fuel rest)
  | fuel + 1, c :: cs => do return c.toNat :: (← decodeLoop fuel cs)

/-- The value of a text with escapes; none if an escape is malformed. -/
def decodeEscapes (cs : List Char) : Option (List CodePoint) := decodeLoop cs.length cs

/-- A byte string is ASCII, and its hexadecimal escapes have two digits. -/
def validBytes : List Char → Bool
  | [] => true
  | '\\' :: 'x' :: a :: b :: cs =>
    (hexValue? a).isSome && (hexValue? b).isSome && validBytes cs
  | '\\' :: 'x' :: _ => false
  | '\\' :: c :: cs => c.toNat < 128 && validBytes cs
  | c :: cs => c.toNat < 128 && validBytes cs

end Literal

end ClassDiagram.Source
