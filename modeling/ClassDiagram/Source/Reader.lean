import ClassDiagram.Source.Token
import ClassDiagram.Text.Normal

/-!
Reading from a list of tokens. A reader gives a value and the tokens that are left, or fails;
where it fails, nothing is taken. A repetition ends at the first failure, and it takes at most as
many rounds as there are tokens.
-/

namespace ClassDiagram.Source

/-- A reader takes its value from the front of a list of tokens. -/
abbrev Reader (α : Type) := StateT (List Token) Option α

namespace Reader

variable {α β : Type}

/-- The tokens ahead; nothing is taken. -/
def ahead : Reader (List Token) := get

def fail : Reader α := fun _ => none

/-- Goes on only if the condition holds. -/
def require (condition : Bool) : Reader Unit := if condition then pure () else fail

def token (t : Token) : Reader Unit
  | u :: ts => if u = t then some ((), ts) else none
  | [] => none

def mark (symbol : String) : Reader Unit := token (.mark symbol)

def keyword (word : String) : Reader Unit := token (.keyword word)

/-- A name that has a meaning of its own in some places, as it is written. -/
def word (written : String) : Reader Unit := token (.name written)

/-- Takes one of several symbols. -/
def oneOf (symbols : List String) : Reader Unit
  | .mark symbol :: ts => if symbol ∈ symbols then some ((), ts) else none
  | _ => none

def identifier : Reader String
  | .name written :: ts => some (Text.Normal.normalize written, ts)
  | _ => none

def nextIs (t : Token) : Reader Bool := fun ts => some (ts.head? == some t, ts)

def nextIsMark (symbol : String) : Reader Bool := nextIs (.mark symbol)

def nextIsKeyword (word : String) : Reader Bool := nextIs (.keyword word)

/-- Fails if the symbol comes next. -/
def notMark (symbol : String) : Reader Unit := do require (!(← nextIsMark symbol))

def perhaps (p : Reader α) : Reader (Option α) := fun ts =>
  match p ts with
  | some (a, rest) => some (some a, rest)
  | none => some (none, ts)

/-- Takes a token if it comes next, and tells whether it did. -/
def accept (t : Token) : Reader Bool := do return (← perhaps (token t)).isSome

/-- Takes values as often as it can, in at most as many rounds as there are tokens in `rounds`. -/
def collect (p : Reader α) : (rounds : List Token) → List Token → List α × List Token
  | [], ts => ([], ts)
  | _ :: rounds, ts =>
    match p ts with
    | none => ([], ts)
    | some (a, rest) => let (as, left) := collect p rounds rest; (a :: as, left)

def many (p : Reader α) : Reader (List α) := fun ts => some (collect p ts ts)

def many1 (p : Reader α) : Reader (List α) := do
  let first ← p
  return first :: (← many p)

/-- Goes on from a value as often as it can, in at most as many rounds. -/
def extendFor (step : α → Reader α) : (rounds : List Token) → α → Reader α
  | [], a => pure a
  | _ :: rounds, a => fun ts =>
    match step a ts with
    | none => some (a, ts)
    | some (b, rest) => extendFor step rounds b rest

def extend (step : α → Reader α) (a : α) : Reader α := fun ts => extendFor step ts a ts

/-- Operands and operators between them, grouped from the left. -/
def leftGrouped (operator : Reader β) (operand : Reader α) (combine : α → α → α) :
    Reader α := do
  let first ← operand
  return (← many (operator *> operand)).foldl combine first

/-- Values parted by a symbol. -/
def separated (symbol : String) (p : Reader α) : Reader (List α) := do
  let first ← p
  return first :: (← many (mark symbol *> p))

/-- Values parted by commas, and whether a comma stands behind the last one. -/
def commaList (p : Reader α) : Reader (List α × Bool) := do
  let items ← separated "," p
  return (items, ← accept (.mark ","))

end Reader

end ClassDiagram.Source
