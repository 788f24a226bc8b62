import ClassDiagram.Analysis.Annotation
import ClassDiagram.Analysis.Scope

/-!
From annotations and base classes to the types that they refer to. Wrappers such as `Optional`
give way to an argument of theirs, of a union the first side that resolves counts, and a string
literal stands for the expression that it holds.
-/

namespace ClassDiagram.Scope

open Source (Expr)

/-- Generic types whose first argument is the type of interest. -/
def wrappers : List String :=
  ["Optional", "Union", "List", "Set", "FrozenSet", "Tuple", "Sequence", "Iterable", "Iterator",
   "Collection", "Type", "ClassVar", "Final", "Annotated", "list", "set", "frozenset", "tuple",
   "type"]

/-- Mappings, whose second argument is the type of interest. -/
def mappings : List String :=
  ["Dict", "DefaultDict", "OrderedDict", "Mapping", "MutableMapping", "dict"]

/-- Bases that are no superclasses to draw. -/
def ignoredBases : List String := ["object", "Generic", "Protocol"]

def lastIdentifier (e : Expr) : Option String := e.chain.getLast?

/-- The arguments of a subscript. -/
def subscriptArguments : Expr → List Expr
  | .tuple items => items
  | e => [e]

/-- The argument that stands for a subscripted wrapper; none for other subscripts. -/
def wrapped? (value index : Expr) : Option (Option Expr) :=
  match lastIdentifier value with
  | none => none
  | some id =>
    if id ∈ mappings then some (subscriptArguments index)[1]?
    else if id ∈ wrappers then some (subscriptArguments index)[0]?
    else none

theorem longestText_le_of_mem {e : Expr} {items : List Expr} (h : e ∈ items) :
    e.longestText ≤ Expr.longestText.longestTexts items := by
  induction items with
  | nil => simp at h
  | cons item items ih =>
    simp only [List.mem_cons] at h
    rcases h with rfl | h
    · exact Nat.le_max_left _ _
    · exact Nat.le_trans (ih h) (Nat.le_max_right _ _)

theorem sizeOf_argument {index e : Expr} (h : e ∈ subscriptArguments index) :
    sizeOf e ≤ sizeOf index := by
  cases index with
  | tuple items =>
    simp only [subscriptArguments] at h
    have := List.sizeOf_lt_of_mem h
    simp only [Expr.tuple.sizeOf_spec]; omega
  | _ => simp_all [subscriptArguments]

theorem longestText_argument {index e : Expr} (h : e ∈ subscriptArguments index) :
    e.longestText ≤ index.longestText := by
  cases index with
  | tuple items => exact longestText_le_of_mem h
  | _ => simp_all [subscriptArguments]

theorem mem_of_wrapped? {value index e : Expr} (h : wrapped? value index = some (some e)) :
    e ∈ subscriptArguments index := by
  unfold wrapped? at h
  split at h
  · simp at h
  · split at h
    · exact List.mem_of_getElem? (Option.some.inj h)
    · split at h
      · exact List.mem_of_getElem? (Option.some.inj h)
      · simp at h

/-- The type that an expression refers to, if it refers to one of a project. -/
def resolve (s : Scope) (e : Expr) : Except TextFault (Option QualifiedName) :=
  match e with
  | .text value => do
    match ← Annotation.expression? value with
    | none => return none
    | some ⟨e, _⟩ => s.resolve e
  | .subscript value index =>
    match _h : wrapped? value index with
    | some (some argument) => s.resolve argument
    | some none => return none
    | none => s.resolve value
  | .union left right => do
    match ← s.resolve left with
    | some q => return some q
    | none => s.resolve right
  | e => return s.resolveChain e.chain
termination_by (e.longestText, sizeOf e)
decreasing_by
  · rename_i h
    exact Prod.Lex.left _ _ (by simpa [Expr.longestText] using h)
  · have hm := mem_of_wrapped? _h
    have h1 := longestText_argument hm
    have h2 := sizeOf_argument hm
    apply Prod.Lex.right'
    · simp only [Expr.longestText]; omega
    · simp only [Expr.subscript.sizeOf_spec]; omega
  · apply Prod.Lex.right'
    · simp only [Expr.longestText]; omega
    · simp only [Expr.subscript.sizeOf_spec]; omega
  · apply Prod.Lex.right'
    · simp only [Expr.longestText]; omega
    · simp only [Expr.union.sizeOf_spec]; omega
  · apply Prod.Lex.right'
    · simp only [Expr.longestText]; omega
    · simp only [Expr.union.sizeOf_spec]; omega

theorem resolve_text (s : Scope) (value : List Text.CodePoint) :
    s.resolve (.text value) = Annotation.expression? value >>= fun
      | none => .ok none
      | some e => s.resolve e.1 := by
  rw [resolve]
  cases Annotation.expression? value with
  | error => rfl
  | ok found => cases found <;> rfl

theorem resolve_argument (s : Scope) {value index argument : Expr}
    (h : wrapped? value index = some (some argument)) :
    s.resolve (.subscript value index) = s.resolve argument := by
  rw [resolve]
  split <;> simp_all

theorem resolve_missing (s : Scope) {value index : Expr} (h : wrapped? value index = some none) :
    s.resolve (.subscript value index) = .ok none := by
  rw [resolve]
  split <;> simp_all [pure, Except.pure]

theorem resolve_subscripted (s : Scope) {value index : Expr} (h : wrapped? value index = none) :
    s.resolve (.subscript value index) = s.resolve value := by
  rw [resolve]
  split <;> simp_all

theorem resolve_union (s : Scope) (left right : Expr) :
    s.resolve (.union left right) = s.resolve left >>= fun
      | some q => .ok (some q)
      | none => s.resolve right := by
  rw [resolve]
  cases s.resolve left with
  | error => rfl
  | ok found => cases found <;> rfl

/-- The type of an annotation that may be missing. -/
def resolve? (s : Scope) : Option Expr → Except TextFault (Option QualifiedName)
  | none => .ok none
  | some e => s.resolve e

/-- What a base is a class of, without its arguments. -/
def baseTarget : Expr → Expr
  | .subscript value _ => value
  | e => e

/-- A base that can be a superclass to draw. -/
def isDrawnBase (target : Expr) : Bool :=
  match lastIdentifier target with
  | none => false
  | some id => id ∉ ignoredBases

/-- The superclass: the first base that resolves. -/
def resolveBase (s : Scope) : List Expr → Except TextFault (Option QualifiedName)
  | [] => return none
  | base :: bases => do
    let target := baseTarget base
    if isDrawnBase target then
      match ← s.resolve target with
      | some q => return some q
      | none => s.resolveBase bases
    else s.resolveBase bases

end ClassDiagram.Scope
