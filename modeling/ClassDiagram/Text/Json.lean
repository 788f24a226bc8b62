import ClassDiagram.Text.Quoted

/-!
JSON texts of strings, arrays and objects, indented by two blanks at each level. A string is written
in ASCII alone; a character outside the basic plane is written as a pair of surrogates.
-/

namespace ClassDiagram.Text

inductive Json
  | string (s : String)
  | array (items : List Json)
  | object (fields : List (String × Json))

namespace Json

open Quoted (hexDigits)

/-- A code unit of sixteen bits. -/
def unit (n : Nat) : List Char := '\\' :: 'u' :: hexDigits 4 n

def escapeChar (c : Char) : List Char :=
  if c = '"' ∨ c = '\\' then ['\\', c]
  else if c = '\n' then ['\\', 'n']
  else if c = '\r' then ['\\', 'r']
  else if c = '\t' then ['\\', 't']
  else if c = '\x0c' then ['\\', 'f']
  else if c = '\x08' then ['\\', 'b']
  else if ' ' ≤ c ∧ c ≤ '~' then [c]
  else if c.toNat < 0x10000 then unit c.toNat
  else
    let n := c.toNat - 0x10000
    unit (0xD800 + n / 0x400) ++ unit (0xDC00 + n % 0x400)

/-- The written form of a string. -/
def quote (s : String) : String := String.ofList ('"' :: (s.toList.flatMap escapeChar ++ ['"']))

/-- The start of a line at a level. -/
def margin (level : Nat) : String := String.ofList (List.replicate (2 * level) ' ')

/-- Items on lines of their own, one level deeper than the brackets around them. -/
def block (opening closing : String) (level : Nat) (items : List String) : String :=
  if items = [] then opening ++ closing
  else
    opening ++ "\n" ++ ",\n".intercalate (items.map (margin (level + 1) ++ ·)) ++ "\n"
      ++ margin level ++ closing

/-- The text of a value that begins on a line at a level. -/
def textAt (level : Nat) : Json → String
  | string s => quote s
  | array items => block "[" "]" level (itemTexts (level + 1) items)
  | object fields => block "\x7b" "\x7d" level (fieldTexts (level + 1) fields)
where
  itemTexts (level : Nat) : List Json → List String
    | [] => []
    | item :: items => textAt level item :: itemTexts level items
  fieldTexts (level : Nat) : List (String × Json) → List String
    | [] => []
    | (key, value) :: fields =>
      (quote key ++ ": " ++ textAt level value) :: fieldTexts level fields

def text (value : Json) : String := textAt 0 value

end Json

end ClassDiagram.Text
