/-!
Numerals. `scan` reads the numeral at the front of a text; it tells whether the numeral is
imaginary and what follows, or fails if the numeral is malformed or runs into a word.
-/

namespace ClassDiagram.Source.Numeral

def isWordChar (c : Char) : Bool :=
  c.isAlphanum || c == '_' || 128 ≤ c.toNat

/-- The word `word` stands at the front and is not continued. -/
def startsWord (word : String) (cs : List Char) : Bool :=
  word.toList.isPrefixOf cs && !((cs.drop word.length).head?.any isWordChar)

/-- A numeral may end here: no word follows, or one of the words that may follow a numeral
without a blank. -/
def mayEnd (cs : List Char) : Bool :=
  match cs with
  | [] => true
  | 'i' :: c :: _ => c == 'f' || c == 'n' || c == 's'
  | c :: _ =>
    !isWordChar c || startsWord "and" cs || startsWord "else" cs || startsWord "for" cs
      || startsWord "or" cs || startsWord "not" cs

/-- Skips digits of a class, with single underscores between them. -/
def digits (isDigit : Char → Bool) : List Char → Option (List Char)
  | [] => some []
  | ['_'] => none
  | '_' :: c :: cs => if isDigit c then digits isDigit cs else none
  | c :: cs => if isDigit c then digits isDigit cs else some (c :: cs)

/-- The same, with at least one digit, which an underscore may precede. -/
def someDigits (isDigit : Char → Bool) : List Char → Option (List Char)
  | '_' :: c :: cs => if isDigit c then digits isDigit cs else none
  | c :: cs => if isDigit c then digits isDigit cs else none
  | [] => none

def isHexDigit (c : Char) : Bool :=
  c.isDigit || ('a' ≤ c && c ≤ 'f') || ('A' ≤ c && c ≤ 'F')

def ended (imaginary : Bool) (cs : List Char) : Option (Bool × List Char) :=
  if mayEnd cs then some (imaginary, cs) else none

/-- An optional mark of an imaginary number. -/
def suffix : List Char → Option (Bool × List Char)
  | 'j' :: cs | 'J' :: cs => ended true cs
  | cs => ended false cs

/-- An optional exponent. -/
def exponent (cs : List Char) : Option (Bool × List Char) :=
  match cs with
  | e :: s :: rest =>
    if e == 'e' || e == 'E' then
      if s == '+' || s == '-' then
        match rest with
        | d :: rest => if d.isDigit then digits Char.isDigit rest >>= suffix else none
        | [] => none
      else if s.isDigit then digits Char.isDigit rest >>= suffix
      else ended false cs
    else suffix cs
  | _ => suffix cs

/-- What follows the point of a decimal numeral. -/
def fraction (cs : List Char) : Option (Bool × List Char) :=
  match cs with
  | d :: rest => if d.isDigit then digits Char.isDigit rest >>= exponent else exponent cs
  | [] => exponent cs

/-- Skips zeros, with single underscores between digits. -/
def zeros : List Char → Option (List Char)
  | '_' :: c :: cs =>
    if c.isDigit then (if c == '0' then zeros cs else some (c :: cs)) else none
  | ['_'] => none
  | '0' :: cs => zeros cs
  | cs => some cs

/-- What follows the digits of a whole number. A numeral with digits other than zeros after a
leading zero has to go on as a fraction, an exponent or an imaginary number. -/
def afterWhole (octalLike : Bool) (cs : List Char) : Option (Bool × List Char) :=
  match cs with
  | '.' :: rest => fraction rest
  | c :: _ =>
    if c == 'e' || c == 'E' || c == 'j' || c == 'J' then exponent cs
    else if octalLike then none else ended false cs
  | [] => if octalLike then none else ended false cs

/-- The most digits that a whole decimal number may have. -/
def maxDigits : Nat := 4300

/-- A whole number in decimal digits is not too long. -/
def fitsLimit (cs rest : List Char) : Bool :=
  let lexeme := cs.take (cs.length - rest.length)
  !lexeme.all (fun c => c.isDigit || c == '_') || lexeme.countP Char.isDigit ≤ maxDigits

def radix (isDigit : Char → Bool) (cs : List Char) : Option (Bool × List Char) :=
  someDigits isDigit cs >>= ended false

def scan (cs : List Char) : Option (Bool × List Char) :=
  match cs with
  | '.' :: rest => fraction rest
  | '0' :: 'x' :: rest | '0' :: 'X' :: rest => radix isHexDigit rest
  | '0' :: 'o' :: rest | '0' :: 'O' :: rest => radix (fun c => '0' ≤ c && c ≤ '7') rest
  | '0' :: 'b' :: rest | '0' :: 'B' :: rest => radix (fun c => c == '0' || c == '1') rest
  | '0' :: rest => do
    let more ← zeros rest
    match more with
    | d :: tail =>
      if d.isDigit then digits Char.isDigit tail >>= afterWhole true else afterWhole false more
    | [] => afterWhole false more
  | _ :: rest =>
    (digits Char.isDigit rest >>= afterWhole false).filter fun (_, rest) => fitsLimit cs rest
  | [] => none

end ClassDiagram.Source.Numeral
