import ClassDiagram.Source.Reader
import ClassDiagram.Source.Stmt

/-!
The grammar of expressions. Each rule is written over `self`, the reader of the levels that an
expression can be nested at; `read` ties the rules together. A nested expression always stands
behind a token of the one around it, so as many rounds as there are tokens are enough.

Targets of assignments are read as expressions and checked afterwards (`Expr.isTarget`).
-/

namespace ClassDiagram.Source.Expr.Grammar

open Reader

/-- The levels at which one expression is nested directly in another. -/
inductive Level
  | expression
  | disjunction
  | inversion
  | bitwise
  | factor

/-- An expression, or a single other form such as a generator, in the place of one. -/
abbrev Rule := (Level → Reader Expr) → Reader Expr

/-! ## Lists of expressions -/

/-- One expression as it is; more than one, or a comma behind the last, as a tuple. -/
def grouped : List Expr × Bool → Expr
  | ([e], false) => e
  | (es, _) => tuple es

/-- An assignment of a name inside an expression starts here. -/
def startsWalrus : List Token → Bool
  | .name _ :: .mark ":=" :: _ => true
  | _ => false

variable (self : Level → Reader Expr)

/-- An expression, or the assignment of one to a name. -/
def named : Reader Expr := do
  if startsWalrus (← ahead) then
    let _ ← identifier
    mark ":="
    let _ ← self .expression
    return other
  else
    let e ← self .expression
    notMark ":="
    return e

def starred (level : Level) : Reader Expr := do
  mark "*"
  return Expr.starred (← self level)

def starredOrNamed : Reader Expr := starred self .bitwise <|> named self

def starredOrExpression : Reader Expr := starred self .bitwise <|> self .expression

/-- Expressions parted by commas, which may be starred. -/
def starExpressions : Reader Expr := do return grouped (← commaList (starredOrExpression self))

/-- Expressions parted by commas. -/
def expressions : Reader Expr := do return grouped (← commaList (self .expression))

/-- The targets of a loop. -/
def loopTargets : Reader Expr := do
  let target := grouped (← commaList (starred self .bitwise <|> self .bitwise))
  require target.isTarget
  return target

def yieldExpression : Reader Expr := do
  keyword "yield"
  if ← accept (.keyword "from") then
    let _ ← self .expression
  else
    let _ ← perhaps (starExpressions self)
  return other

/-! ## Comprehensions -/

def startsFor : List Token → Bool
  | .keyword "for" :: _ | .keyword "async" :: .keyword "for" :: _ => true
  | _ => false

def forClause : Reader Unit := do
  let _ ← accept (.keyword "async")
  keyword "for"
  let _ ← loopTargets self
  keyword "in"
  let _ ← self .disjunction
  let _ ← many (keyword "if" *> self .disjunction)

def forClauses : Reader Unit := do let _ ← many1 (forClause self)

/-! ## Calls -/

inductive Argument
  | positional (value : Expr)
  | starred (value : Expr)
  | keyword
  | doubleStarred

namespace Argument

/-- Positional arguments come first; behind a doubly starred one no singly starred one stands. -/
def ordered : List Argument → Bool
  | [] => true
  | positional _ :: rest | starred _ :: rest => ordered rest
  | keyword :: rest => rest.all (fun | positional _ => false | _ => true) && ordered rest
  | doubleStarred :: rest =>
    rest.all (fun | positional _ | starred _ => false | _ => true) && ordered rest

/-- The arguments without keyword, in order. -/
def values (args : List Argument) : List Expr :=
  args.filterMap fun
    | positional e => some e
    | starred e => some (Expr.starred e)
    | _ => none

end Argument

def startsKeyword : List Token → Bool
  | .name _ :: .mark "=" :: _ => true
  | _ => false

def argument : Reader Argument := do
  let ts ← ahead
  if startsKeyword ts then
    let _ ← identifier
    mark "="
    let _ ← self .expression
    return .keyword
  else if ← accept (.mark "*") then
    return .starred (← self .expression)
  else if ← accept (.mark "**") then
    let _ ← self .expression
    return .doubleStarred
  else
    let e ← named self
    notMark "="
    return .positional e

/-- More values behind a first one, parted from it by a comma; a comma may end them. -/
def behindFirst {α : Type} (p : Reader α) : Reader (List α) := do
  let rest ← perhaps (mark "," *> separated "," p)
  let _ ← accept (.mark ",")
  return rest.getD []

/-- The arguments in brackets whose opening one is taken; the values without keyword. A generator
may stand as the only argument of a call. -/
def arguments (call : Bool) : Reader (List Expr) := do
  if ← accept (.mark ")") then return []
  let first ← argument self
  match call && startsFor (← ahead), first with
  | true, .positional _ =>
    forClauses self
    mark ")"
    return [other]
  | _, _ =>
    let args := first :: (← behindFirst (argument self))
    mark ")"
    require (Argument.ordered args)
    return Argument.values args

/-! ## Subscripts -/

def sliceRest : Reader Expr := do
  mark ":"
  let _ ← perhaps (self .expression)
  if ← accept (.mark ":") then
    let _ ← perhaps (self .expression)
  return other

def slice : Reader Expr := do
  if startsWalrus (← ahead) then named self
  else if ← nextIsMark ":" then sliceRest self
  else
    let e ← self .expression
    if ← nextIsMark ":" then sliceRest self
    else
      notMark ":="
      return e

/-- What stands in the square brackets of a subscript, whose opening one is taken. -/
def index : Reader Expr := do
  let items ← commaList (starred self .expression <|> slice self)
  mark "]"
  match items with
  | ([Expr.starred e], _) => return tuple [Expr.starred e]
  | items => return grouped items

/-! ## Atoms -/

/-- Adjacent string literals make one. Byte strings do not mix with others. -/
def joined (literals : List Literal) : Option Expr :=
  if literals.all (· == .bytes) then some literal
  else if literals.any (· == .bytes) then none
  else if literals.any (· == .formatted) then some other
  else some (text (literals.flatMap fun | .text value => value | _ => []))

def strings : Reader Expr := do
  let literals ← many1 fun
    | .text value :: ts => some (value, ts)
    | _ => none
  match joined literals with
  | some e => return e
  | none => fail

def parenthesized : Reader Expr := do
  if ← accept (.mark ")") then return tuple []
  if ← nextIsKeyword "yield" then
    let e ← yieldExpression self
    mark ")"
    return e
  let first ← starredOrNamed self
  let isStarred := match first with
    | .starred _ => true
    | _ => false
  if startsFor (← ahead) then
    require (!isStarred)
    forClauses self
    mark ")"
    return other
  if ← accept (.mark ",") then
    let rest ← perhaps (commaList (starredOrNamed self))
    mark ")"
    match rest with
    | some (rest, _) => return tuple (first :: rest)
    | none => return tuple [first]
  require (!isStarred)
  mark ")"
  return first

def bracketed : Reader Expr := do
  if ← accept (.mark "]") then return list []
  let first ← starredOrNamed self
  match startsFor (← ahead), first with
  | true, .starred _ => fail
  | true, _ =>
    forClauses self
    mark "]"
    return other
  | false, _ =>
    let rest ← behindFirst (starredOrNamed self)
    mark "]"
    return list (first :: rest)

def keyValue : Reader Unit := do
  let _ ← self .expression
  mark ":"
  let _ ← self .expression

def doubleStarred : Reader Unit := do
  mark "**"
  let _ ← self .bitwise

/-- The entries of a dictionary, or the clauses of its comprehension, behind the first entry. -/
def dictionaryRest (mayLoop : Bool) : Reader Unit := do
  if mayLoop && startsFor (← ahead) then forClauses self
  else
    let _ ← behindFirst (doubleStarred self <|> keyValue self)

/-- What stands in curly braces whose opening one is taken. -/
def braced : Reader Expr := do
  if ← accept (.mark "\x7d") then return other
  if ← nextIsMark "**" then
    doubleStarred self
    dictionaryRest self false
  else
    let assigned := startsWalrus (← ahead)
    let first ← starredOrNamed self
    let isStarred := match first with
      | .starred _ => true
      | _ => false
    if !assigned && !isStarred && (← nextIsMark ":") then
      mark ":"
      let _ ← self .expression
      dictionaryRest self true
    else if !isStarred && startsFor (← ahead) then forClauses self
    else
      let _ ← behindFirst (starredOrNamed self)
  mark "\x7d"
  return other

def atom : Reader Expr := fun ts =>
  match ts with
  | .name written :: ts => some (name (Text.Normal.normalize written), ts)
  | .keyword "True" :: ts | .keyword "False" :: ts | .keyword "None" :: ts => some (literal, ts)
  | .number _ :: ts => some (literal, ts)
  | .mark "..." :: ts => some (literal, ts)
  | .text _ :: _ => strings ts
  | .mark "(" :: ts => parenthesized self ts
  | .mark "[" :: ts => bracketed self ts
  | .mark "\x7b" :: ts => braced self ts
  | _ => none

/-! ## Operators -/

/-- What can follow a primary expression and make a larger one. -/
def trailer (e : Expr) : Reader Expr := do
  if ← accept (.mark ".") then return member e (← identifier)
  else if ← accept (.mark "[") then return subscript e (← index self)
  else
    mark "("
    let _ ← arguments self true
    return call e

def primary : Reader Expr := do
  extend (trailer self) (← atom self)

def awaited : Reader Expr := do
  if ← accept (.keyword "await") then
    let _ ← primary self
    return other
  else primary self

def power : Reader Expr := do
  let base ← awaited self
  if ← accept (.mark "**") then
    let _ ← self .factor
    return other
  else return base

def factor : Reader Expr := do
  if (← perhaps (oneOf ["+", "-", "~"])).isSome then
    let _ ← self .factor
    return other
  else power self

def operation (symbols : List String) (operand : Reader Expr) : Reader Expr :=
  leftGrouped (oneOf symbols) operand fun _ _ => other

def bitwise : Reader Expr :=
  let term := operation ["*", "/", "//", "%", "@"] (factor self)
  let sum := operation ["+", "-"] term
  let shift := operation ["<<", ">>"] sum
  let conjunct := operation ["&"] shift
  leftGrouped (oneOf ["|"]) (operation ["^"] conjunct) union

def comparator : Reader Unit :=
  oneOf ["==", "!=", "<=", "<", ">=", ">"] <|> keyword "in"
    <|> (do keyword "not"; keyword "in")
    <|> (do keyword "is"; let _ ← accept (.keyword "not"))

def inversion : Reader Expr := do
  if ← accept (.keyword "not") then
    let _ ← self .inversion
    return other
  else leftGrouped comparator (bitwise self) fun _ _ => other

def disjunction : Reader Expr :=
  let conjunction := leftGrouped (keyword "and") (inversion self) fun _ _ => other
  leftGrouped (keyword "or") conjunction fun _ _ => other

/-! ## Parameters -/

inductive ParameterItem
  | plain (parameter : Parameter) (defaulted : Bool)
  | slash
  | star (parameter : Option Parameter)
  | doubleStar (parameter : Parameter)

namespace ParameterItem

/-- Names behind a bare star, or behind a star with a name, are keyword-only; at the end one may
stand behind two stars. -/
def keywordPart (ps : Parameters) : List ParameterItem → Option Parameters
  | [] => some ps
  | plain p _ :: rest => keywordPart { ps with keywordOnly := ps.keywordOnly ++ [p] } rest
  | [doubleStar p] => some { ps with keywordVariadic := some p }
  | _ => none

/-- The parameters in their groups; `slashed` tells that the positional-only ones are through,
`defaulted` that a parameter without a default can come no more. -/
def positionalPart (ps : Parameters) (slashed defaulted : Bool) :
    List ParameterItem → Option Parameters
  | [] => some ps
  | plain p d :: rest =>
    if defaulted && !d then none
    else positionalPart { ps with positional := ps.positional ++ [p] } slashed d rest
  | slash :: rest =>
    if slashed || ps.positional.isEmpty then none
    else
      positionalPart { ps with positionalOnly := ps.positional, positional := [] } true defaulted
        rest
  | star (some p) :: rest => keywordPart { ps with variadic := some p } rest
  | star none :: plain p d :: rest => keywordPart ps (plain p d :: rest)
  | star none :: _ => none
  | [doubleStar p] => some { ps with keywordVariadic := some p }
  | doubleStar _ :: _ => none

end ParameterItem

/-- A name with an annotation, where annotations can stand. -/
def parameter (annotated mayStar : Bool) : Reader Parameter := do
  let id ← identifier
  if annotated && (← nextIsMark ":") then
    mark ":"
    let e ← if mayStar then starredOrExpression self else self .expression
    return { name := id, hint := some e }
  else return { name := id }

def parameterItem (annotated : Bool) : Reader ParameterItem := do
  if ← accept (.mark "/") then return .slash
  else if ← accept (.mark "**") then return .doubleStar (← parameter self annotated false)
  else if ← accept (.mark "*") then return .star (← perhaps (parameter self annotated true))
  else
    let p ← parameter self annotated false
    if ← accept (.mark "=") then
      let _ ← self .expression
      return .plain p true
    else return .plain p false

/-- The parameters of a function up to the symbol that ends them, which is taken. -/
def parameters (annotated : Bool) (close : String) : Reader Parameters := do
  if ← accept (.mark close) then return {}
  let (items, _) ← commaList (parameterItem self annotated)
  mark close
  match ParameterItem.positionalPart {} false false items with
  | some ps => return ps
  | none => fail

/-! ## Expressions -/

def lambda : Reader Expr := do
  keyword "lambda"
  let _ ← parameters self false ":"
  let _ ← self .expression
  return other

def expression : Reader Expr := do
  if ← nextIsKeyword "lambda" then lambda self
  else
    let value ← disjunction self
    if ← accept (.keyword "if") then
      let _ ← disjunction self
      keyword "else"
      let _ ← self .expression
      return other
    else return value

def rule : Level → Reader Expr
  | .expression => expression self
  | .disjunction => disjunction self
  | .inversion => inversion self
  | .bitwise => bitwise self
  | .factor => factor self

/-- Reads an expression that is nested no deeper than `depth`. -/
def read (depth : Nat) : Level → Reader Expr :=
  match depth with
  | 0 => fun _ => fail
  | depth + 1 => rule (read depth)

end ClassDiagram.Source.Expr.Grammar
