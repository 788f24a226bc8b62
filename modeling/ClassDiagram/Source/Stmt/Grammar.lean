import ClassDiagram.Source.Expr.Grammar
import ClassDiagram.Source.Stmt.Pattern

/-!
The grammar of statements. The rules of compound statements are written over `block`, the reader
of a block; `readAll` ties them together. A nested block always stands behind a token of the
statement around it, so as many rounds as there are tokens are enough.
-/

namespace ClassDiagram.Source.Stmt.Grammar

open Reader
open Expr.Grammar (Level)

variable (expr : Level → Reader Expr)

/-! ## Simple statements -/

def augmentedAssignments : List String :=
  ["+=", "-=", "*=", "@=", "/=", "%=", "&=", "|=", "^=", "<<=", ">>=", "**=", "//="]

def assignedValue : Reader Expr := do
  if ← nextIsKeyword "yield" then Expr.Grammar.yieldExpression expr
  else Expr.Grammar.starExpressions expr

/-- An expression, or an assignment to one or more targets. -/
def expressionOrAssignment : Reader Stmt := do
  let first ← Expr.Grammar.starExpressions expr
  if ← accept (.mark ":") then
    require first.isSingleTarget
    let hint ← expr .expression
    if ← accept (.mark "=") then
      let _ ← assignedValue expr
    return annotated first hint
  else if ← nextIsMark "=" then
    let values ← many1 (mark "=" *> assignedValue expr)
    let targets := first :: values.dropLast
    require (targets.all Expr.isTarget)
    return assign targets
  else if (← perhaps (oneOf augmentedAssignments)).isSome then
    require first.isSingleTarget
    let _ ← assignedValue expr
    return other
  else return other

def returned : Reader Stmt := do
  let _ ← perhaps (Expr.Grammar.starExpressions expr)
  return other

def raised : Reader Stmt := do
  if (← perhaps (expr .expression)).isSome then
    if ← accept (.keyword "from") then
      let _ ← expr .expression
  return other

def deleted : Reader Stmt := do
  let target ← Expr.Grammar.starExpressions expr
  require target.isDeletable
  return other

def asserted : Reader Stmt := do
  let _ ← expr .expression
  if ← accept (.mark ",") then
    let _ ← expr .expression
  return other

def names : Reader Stmt := do
  let _ ← separated "," identifier
  return other

/-! ## Imports -/

def dottedName : Reader String := do
  return String.intercalate "." (← separated "." identifier)

def renamable (name : Reader String) : Reader Alias := do
  let id ← name
  if ← accept (.keyword "as") then return { name := id, bound := some (← identifier) }
  else return { name := id }

/-- The points in front of the source of a relative import. -/
def relativeLevel : Reader Nat := do
  let points ← many fun
    | .mark "." :: ts => some (1, ts)
    | .mark "..." :: ts => some (3, ts)
    | _ => none
  return points.foldl (· + ·) 0

def importedNames : Reader (List Alias) := do
  if ← accept (.mark "*") then return [{ name := "*" }]
  else if ← accept (.mark "(") then
    let (aliases, _) ← commaList (renamable identifier)
    mark ")"
    return aliases
  else separated "," (renamable identifier)

def imported : Reader Stmt := do return importModules (← separated "," (renamable dottedName))

def importedFrom : Reader Stmt := do
  let level ← relativeLevel
  let source ← if 0 < level then perhaps dottedName else some <$> dottedName
  keyword "import"
  return importFrom source (← importedNames) level

def simple : Reader Stmt
  | .keyword "pass" :: ts | .keyword "break" :: ts | .keyword "continue" :: ts => some (other, ts)
  | .keyword "return" :: ts => returned expr ts
  | .keyword "raise" :: ts => raised expr ts
  | .keyword "global" :: ts | .keyword "nonlocal" :: ts => names ts
  | .keyword "del" :: ts => deleted expr ts
  | .keyword "assert" :: ts => asserted expr ts
  | .keyword "import" :: ts => imported ts
  | .keyword "from" :: ts => importedFrom ts
  | .keyword "yield" :: ts => (do
    let _ ← Expr.Grammar.yieldExpression expr
    return other) (.keyword "yield" :: ts)
  | ts => expressionOrAssignment expr ts

/-- The statements of one line. -/
def simpleLine : Reader (List Stmt) := do
  let stmts ← separated ";" (simple expr)
  let _ ← accept (.mark ";")
  token .newline
  return stmts

/-! ## Compound statements -/

variable (block : Reader (List Stmt))

def colonBlock : Reader (List Stmt) := do
  mark ":"
  block

def elseBlock : Reader (List Stmt) := do
  if ← accept (.keyword "else") then colonBlock block else return []

def condition : Reader (List Stmt) := do
  let _ ← Expr.Grammar.named expr
  colonBlock block

def conditional : Reader Stmt := do
  let body ← condition expr block
  let branches ← many (keyword "elif" *> condition expr block)
  let last ← elseBlock block
  return compound (body ++ branches.foldr (fun branch rest => [compound (branch ++ rest)]) last)

def whileLoop : Reader Stmt := do
  let body ← condition expr block
  return compound (body ++ (← elseBlock block))

def forLoop : Reader Stmt := do
  let _ ← Expr.Grammar.loopTargets expr
  keyword "in"
  let _ ← Expr.Grammar.starExpressions expr
  let body ← colonBlock block
  return compound (body ++ (← elseBlock block))

/-- A context and the target that it is bound to. -/
def withItem : Reader Unit := do
  let _ ← expr .expression
  if ← accept (.keyword "as") then
    let target ← Expr.Grammar.starred expr .bitwise <|> expr .bitwise
    require target.isTarget
    require ((← nextIsMark ",") || (← nextIsMark ")") || (← nextIsMark ":"))

def withHeader : Reader Unit :=
  (do
    mark "("
    let _ ← commaList (withItem expr)
    mark ")"
    mark ":")
  <|> (do
    let _ ← separated "," (withItem expr)
    mark ":")

def withBlock : Reader Stmt := do
  withHeader expr
  return compound (← block)

/-- What stands between `except` and the colon of a handler that is no group handler. -/
def caught : Reader Unit := do
  if !(← nextIsMark ":") then
    let _ ← expr .expression
    if ← accept (.keyword "as") then
      let _ ← identifier

def handler : Reader Stmt := do
  keyword "except"
  caught expr
  return compound (← colonBlock block)

def groupHandler : Reader Stmt := do
  keyword "except"
  mark "*"
  require (!(← nextIsMark ":"))
  caught expr
  return compound (← colonBlock block)

def finallyBlock : Reader (List Stmt) := do
  keyword "finally"
  colonBlock block

def tryBlock : Reader Stmt := do
  let body ← colonBlock block
  if ← nextIsKeyword "finally" then return compound (body ++ (← finallyBlock block))
  let handlers ← match ← ahead with
    | .keyword "except" :: .mark "*" :: _ => many1 (groupHandler expr block)
    | _ => many1 (handler expr block)
  let orelse ← elseBlock block
  let last ←
    if ← nextIsKeyword "finally" then finallyBlock block else pure []
  return compound (body ++ handlers ++ orelse ++ last)

def case (depth : Nat) : Reader Stmt := do
  word "case"
  Pattern.readCase depth
  if ← accept (.keyword "if") then
    let _ ← Expr.Grammar.named expr
  return compound (← colonBlock block)

/-- What a `match` statement looks at. -/
def subject : Reader Unit := do
  let isStarred ← nextIsMark "*"
  let (items, trailing) ← commaList (Expr.Grammar.starredOrNamed expr)
  require (!isStarred || trailing || 1 < items.length)

def matchBlock : Reader Stmt := do
  let depth := (← ahead).length
  word "match"
  subject expr
  mark ":"
  token .newline
  token .indent
  let cases ← many1 (case expr block depth)
  token .dedent
  return compound cases

/-! ## Definitions -/

def classDefinition : Reader Stmt := do
  keyword "class"
  let name ← identifier
  let bases ←
    if ← accept (.mark "(") then Expr.Grammar.arguments expr false else pure []
  return classDef name bases (← colonBlock block)

def functionDefinition (decorators : List Expr) : Reader Stmt := do
  keyword "def"
  let name ← identifier
  mark "("
  let parameters ← Expr.Grammar.parameters expr true ")"
  let returns ←
    if ← accept (.mark "->") then some <$> expr .expression else pure none
  return functionDef { name, parameters, returns, decorators } (← colonBlock block)

def decorator : Reader Expr := do
  mark "@"
  let e ← Expr.Grammar.named expr
  token .newline
  return e

def decorated : Reader Stmt := do
  let decorators ← many1 (decorator expr)
  if ← nextIsKeyword "class" then classDefinition expr block
  else
    let _ ← accept (.keyword "async")
    functionDefinition expr block decorators

def compoundStatement : Reader Stmt
  | .keyword "if" :: ts => conditional expr block ts
  | .keyword "while" :: ts => whileLoop expr block ts
  | .keyword "for" :: ts | .keyword "async" :: .keyword "for" :: ts => forLoop expr block ts
  | .keyword "with" :: ts | .keyword "async" :: .keyword "with" :: ts => withBlock expr block ts
  | .keyword "try" :: ts => tryBlock expr block ts
  | .keyword "async" :: .keyword "def" :: ts =>
    functionDefinition expr block [] (.keyword "def" :: ts)
  | .keyword "def" :: ts => functionDefinition expr block [] (.keyword "def" :: ts)
  | .keyword "class" :: ts => classDefinition expr block (.keyword "class" :: ts)
  | .mark "@" :: ts => decorated expr block (.mark "@" :: ts)
  | .name "match" :: ts => matchBlock expr block (.name "match" :: ts)
  | _ => none

/-- A compound statement, or the statements of a line. -/
def statement : Reader (List Stmt) :=
  (do return [← compoundStatement expr block]) <|> simpleLine expr

/-- A block on lines of its own, or the statements behind the colon. -/
def blockOf (statement : Reader (List Stmt)) : Reader (List Stmt) :=
  (do
    token .newline
    token .indent
    let body ← many1 statement
    token .dedent
    return body.flatten)
  <|> simpleLine expr

/-- Reads a statement whose blocks are nested no deeper than `depth`. -/
def read (depth : Nat) : Reader (List Stmt) :=
  match depth with
  | 0 => fail
  | depth + 1 => statement expr (blockOf expr (read depth))

/-- Reads all tokens as statements. -/
def readAll (tokens : List Token) : Option (List Stmt) :=
  let depth := tokens.length + 1
  match many (read (Expr.Grammar.read depth) depth) tokens with
  | some (stmts, []) => some stmts.flatten
  | _ => none

end ClassDiagram.Source.Stmt.Grammar
