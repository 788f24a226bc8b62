import ClassDiagram.Text.CharacterName.Table
import ClassDiagram.Text.CodeTable

/-!
Characters by name. Names are looked up in letters of either case; the names of ideographs and
syllables are made from their codes and parts. The table is not complete, so there are characters
whose names `code?` does not know.
-/

namespace ClassDiagram.Text.CharacterName

/-- The code point and the text of a row, parted by a colon. -/
def splitRow (row : List Char) : CodePoint × List Char :=
  (CodeTable.hexNumber (row.takeWhile (· ≠ ':')), (row.dropWhile (· ≠ ':')).drop 1)

def indexOf? (name : List Char) (names : List (List Char)) : Option Nat :=
  names.findIdx? (· == name)

def tabled? (name : List Char) : Option CodePoint :=
  (nameText.toList.splitOn '\n').findSome? fun line =>
    let (start, names) := splitRow line
    (indexOf? name (names.splitOn ';')).map (start + ·)

def alias? (name : List Char) : Option CodePoint :=
  ((aliasText.toList.splitOn '\n').flatMap (·.splitOn '|')).findSome? fun row =>
    let (code, other) := splitRow row
    if other == name && name ≠ [] then some code else none

/-! ## Ideographs -/

def ideographs : List CodeTable.Span :=
  [⟨0x3400, 0x4DBF⟩, ⟨0x4E00, 0x9FFF⟩, ⟨0x20000, 0x2A6DF⟩, ⟨0x2A700, 0x2B738⟩,
   ⟨0x2B740, 0x2B81D⟩, ⟨0x2B820, 0x2CEA1⟩, ⟨0x2CEB0, 0x2EBE0⟩, ⟨0x30000, 0x3134A⟩]

def ideographStart : List Char := "CJK UNIFIED IDEOGRAPH-".toList

def isUpperHex (c : Char) : Bool := c.isDigit || ('A' ≤ c && c ≤ 'F')

def ideograph? (name : List Char) : Option CodePoint :=
  let digits := name.drop ideographStart.length
  let code := CodeTable.hexNumber digits
  if ideographStart.isPrefixOf name && digits.all isUpperHex
      && (digits.length = 4 || digits.length = 5)
      && ideographs.any (fun s => s.first ≤ code && code ≤ s.last) then some code
  else none

/-! ## Syllables -/

def leads : List String :=
  ["G", "GG", "N", "D", "DD", "R", "M", "B", "BB", "S", "SS", "", "J", "JJ", "C", "K", "T", "P",
   "H"]

def vowels : List String :=
  ["A", "AE", "YA", "YAE", "EO", "E", "YEO", "YE", "O", "WA", "WAE", "OE", "YO", "U", "WEO", "WE",
   "WI", "YU", "EU", "YI", "I"]

def tails : List String :=
  ["", "G", "GG", "GS", "N", "NJ", "NH", "D", "L", "LG", "LM", "LB", "LS", "LT", "LP", "LH", "M",
   "B", "BS", "S", "SS", "NG", "J", "C", "K", "T", "P", "H"]

def syllableStart : List Char := "HANGUL SYLLABLE ".toList

/-- The place of the longest part that a text begins with, and the rest. -/
def longestPart? (parts : List String) (cs : List Char) : Option (Nat × List Char) :=
  (parts.zipIdx.foldl (fun best (part, i) =>
    if part.toList.isPrefixOf cs then
      match best with
      | some (_, length) => if length < part.length then some (i, part.length) else best
      | none => some (i, part.length)
    else best) none).map fun (i, length) => (i, cs.drop length)

def syllable? (name : List Char) : Option CodePoint := do
  if !syllableStart.isPrefixOf name then none
  else
    let (lead, rest) ← longestPart? leads (name.drop syllableStart.length)
    let (vowel, rest) ← longestPart? vowels rest
    let (tail, rest) ← longestPart? tails rest
    if rest = [] then some (0xAC00 + (lead * 21 + vowel) * 28 + tail) else none

/-! ## All names -/

def code? (name : List Char) : Option CodePoint :=
  let upper := name.map Char.toUpper
  if name = [] then none
  else syllable? name <|> ideograph? name <|> tabled? upper <|> alias? upper

end ClassDiagram.Text.CharacterName
