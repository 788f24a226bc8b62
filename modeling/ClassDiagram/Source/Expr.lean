import ClassDiagram.Text.CodeTable

/-!
Expressions, as far as an analysis of classes looks at them: names, member chains, subscripts,
unions, calls and the displays that can be assigned to. All other forms are `other`.
-/

namespace ClassDiagram.Source

inductive Expr
  | name (id : String)
  /-- A string literal; its value may hold surrogates. -/
  | text (value : List Text.CodePoint)
  /-- A literal that is no string. -/
  | literal
  | member (value : Expr) (attr : String)
  | subscript (value index : Expr)
  | tuple (items : List Expr)
  | list (items : List Expr)
  | starred (value : Expr)
  | call (function : Expr)
  /-- Two operands of a vertical bar. -/
  | union (left right : Expr)
  | other
  deriving Inhabited, Repr

namespace Expr

/-- A name followed by member names, as the list of its identifiers; empty for all other forms. -/
def chain : Expr → List String
  | name id => [id]
  | member value attr =>
    match chain value with
    | [] => []
    | ids => ids ++ [attr]
  | _ => []

/-- A form that one value can be assigned to. -/
def isSingleTarget : Expr → Bool
  | name _ | member _ _ | subscript _ _ => true
  | _ => false

/-- A form that stands on the left of an assignment. -/
def isTarget : Expr → Bool
  | name _ | member _ _ | subscript _ _ => true
  | starred (.starred _) => false
  | starred value => isTarget value
  | tuple items | list items => areTargets items
  | _ => false
where
  areTargets : List Expr → Bool
    | [] => true
    | item :: items => isTarget item && areTargets items

/-- A form that can be deleted. -/
def isDeletable : Expr → Bool
  | name _ | member _ _ | subscript _ _ => true
  | tuple items | list items => areDeletable items
  | _ => false
where
  areDeletable : List Expr → Bool
    | [] => true
    | item :: items => isDeletable item && areDeletable items

/-- The length of the longest string literal in an expression. -/
def longestText : Expr → Nat
  | text value => value.length
  | member value _ | starred value | call value => longestText value
  | subscript left right | union left right => max (longestText left) (longestText right)
  | tuple items | list items => longestTexts items
  | name _ | literal | other => 0
where
  longestTexts : List Expr → Nat
    | [] => 0
    | item :: items => max (longestText item) (longestTexts items)

theorem chain_member (value : Expr) (attr : String) :
    chain (.member value attr) = if chain value = [] then [] else chain value ++ [attr] := by
  cases h : chain value <;> simp [chain, h]

end Expr

end ClassDiagram.Source
