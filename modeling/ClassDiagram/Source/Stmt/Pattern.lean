import ClassDiagram.Source.Reader

/-!
The grammar of the patterns that cases match. Only whether a text is a pattern matters, so the
readers give no value.
-/

namespace ClassDiagram.Source.Stmt.Pattern

open Reader

def number (imaginary : Bool) : Reader Unit := token (.number imaginary)

/-- A number, or a sum or difference of a real and an imaginary one. -/
def signedNumber : Reader Unit := do
  let _ ← accept (.mark "-")
  (do
    number false
    if (← perhaps (oneOf ["+", "-"])).isSome then number true)
  <|> (do
    number true
    notMark "+"
    notMark "-")

/-- Adjacent string literals; byte strings do not mix with others. -/
def strings : Reader Unit := do
  let literals ← many1 fun
    | .text value :: ts => some (value, ts)
    | _ => none
  require (literals.all (· == .bytes) || !literals.any (· == .bytes))

def literal : Reader Unit :=
  signedNumber <|> strings <|> keyword "None" <|> keyword "True" <|> keyword "False"

/-- A name that a pattern binds. -/
def captured : Reader Unit := do
  let ts ← ahead
  require (ts.head? != some (.name "_"))
  let _ ← identifier
  notMark "."
  notMark "("
  notMark "="

/-- Names parted by points; tells whether there is more than one. -/
def dotted : Reader Bool := do
  let names ← separated "." identifier
  return 1 < names.length

def dottedValue : Reader Unit := do
  require (← dotted)

/-- Patterns parted by commas with an optional last comma, up to a symbol that is taken. -/
def upTo (close : String) (p : Reader Unit) : Reader Unit := do
  if ← accept (.mark close) then return ()
  let _ ← commaList p
  mark close

variable (self : Reader Unit)

def starred : Reader Unit := do
  mark "*"
  word "_" <|> captured

def starredOrPattern : Reader Unit := starred <|> self

/-- A pattern in round brackets, or a sequence of patterns. -/
def parenthesized : Reader Unit := do
  if ← accept (.mark ")") then return ()
  let isStarred ← nextIsMark "*"
  starredOrPattern self
  if ← accept (.mark ",") then upTo ")" (starredOrPattern self)
  else
    require (!isStarred)
    mark ")"

inductive Entry
  | pair
  | rest
  deriving DecidableEq

def mappingEntry : Reader Entry := do
  if ← accept (.mark "**") then
    captured
    return .rest
  else
    literal <|> dottedValue
    mark ":"
    self
    return .pair

/-- The entries of a mapping; one that takes the rest stands last. -/
def mapping : Reader Unit := do
  if ← accept (.mark "\x7d") then return ()
  let (entries, _) ← commaList (mappingEntry self)
  require (entries.dropLast.all (· == .pair))
  mark "\x7d"

inductive ClassArgument
  | positional
  | keyword
  deriving DecidableEq

def classArgument : Reader ClassArgument := do
  match ← ahead with
  | .name _ :: .mark "=" :: _ =>
    let _ ← identifier
    mark "="
    self
    return .keyword
  | _ =>
    self
    return .positional

/-- The arguments of a class pattern whose opening bracket is taken; positional ones come
first. -/
def classArguments : Reader Unit := do
  if ← accept (.mark ")") then return ()
  let (args, _) ← commaList (classArgument self)
  require ((args.dropWhile (· == .positional)).all (· == .keyword))
  mark ")"

/-- A dotted name that stands for a value, or a class with arguments. -/
def valueOrClass : Reader Unit := do
  let several ← dotted
  if ← accept (.mark "(") then classArguments self
  else
    require several
    notMark "="

def nested : Reader Unit
  | .name written :: ts => valueOrClass self (.name written :: ts)
  | .mark "(" :: ts => parenthesized self ts
  | .mark "[" :: ts => upTo "]" (starredOrPattern self) ts
  | .mark "\x7b" :: ts => mapping self ts
  | _ => none

def closed : Reader Unit := literal <|> captured <|> word "_" <|> nested self

/-- Alternatives, and a name that what they match is bound to. -/
def alternatives : Reader Unit := do
  let _ ← separated "|" (closed self)
  if ← accept (.keyword "as") then captured

/-- Reads a pattern that is nested no deeper than `depth`. -/
def read (depth : Nat) : Reader Unit :=
  match depth with
  | 0 => fail
  | depth + 1 => alternatives (read depth)

/-- What stands behind `case`: a pattern, or a sequence of them without brackets. -/
def readCase (depth : Nat) : Reader Unit := do
  let isStarred ← nextIsMark "*"
  let (items, trailing) ← commaList (starredOrPattern (read depth))
  require (!isStarred || trailing || 1 < items.length)

end ClassDiagram.Source.Stmt.Pattern
