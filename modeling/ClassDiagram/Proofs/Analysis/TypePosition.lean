import Mathlib.Logic.Relation
import ClassDiagram.Proofs.Analysis.Nesting

/-!
Type positions. These are the places of an annotation whose types count: the annotation itself, the
argument that counts of a wrapper or a mapping, the sides of a union, and the expression that a
string spells. What stands there can be put in quotes, and what is in quotes can be put in quotes
again, without a change of the type (`Scope.resolve_of_quotings`).
-/

namespace ClassDiagram.Scope

open Source (Expr)
open Text (CodePoint)
open Annotation (Spells)

/-- Which of the arguments counts, for wrappers and mappings. -/
def argumentPlace? (value : Expr) : Option Nat :=
  (lastIdentifier value).bind fun id =>
    if id ∈ mappings then some 1 else if id ∈ wrappers then some 0 else none

theorem wrapped?_eq (value index : Expr) :
    wrapped? value index = (argumentPlace? value).map ((subscriptArguments index)[·]?) := by
  rw [wrapped?, argumentPlace?]
  cases lastIdentifier value with
  | none => rfl
  | some id =>
    by_cases hmapping : id ∈ mappings
    · simp [hmapping]
    · by_cases hwrapper : id ∈ wrappers <;> simp [hmapping, hwrapper]

theorem resolve_spelled (s : Scope) {value : List CodePoint} {e : Expr} (h : Spells value e) :
    s.resolve (.text value) = s.resolve e := by
  rw [resolve_text, Annotation.expression?_of_spells h]
  rfl

/-- What stands at a type position is put in quotes. -/
inductive Quoting : Expr → Expr → Prop
  | whole {value : List CodePoint} {e : Expr} (h : Spells value e) : Quoting e (.text value)
  /-- The only argument of a wrapper; a tuple is a list of arguments. -/
  | only {value e e' : Expr} (hplace : argumentPlace? value = some 0)
    (htuple : ∀ items, e ≠ .tuple items) (h : Quoting e e') :
    Quoting (.subscript value e) (.subscript value e')
  /-- The argument that counts, among others. -/
  | among {value e e' : Expr} {before : List Expr} (after : List Expr)
    (hplace : argumentPlace? value = some before.length) (h : Quoting e e') :
    Quoting (.subscript value (.tuple (before ++ e :: after)))
      (.subscript value (.tuple (before ++ e' :: after)))
  | left {left left' : Expr} (right : Expr) (h : Quoting left left') :
    Quoting (.union left right) (.union left' right)
  | right {right right' : Expr} (left : Expr) (h : Quoting right right') :
    Quoting (.union left right) (.union left right')
  /-- A position in the expression that a string spells. -/
  | within {value value' : List CodePoint} {e e' : Expr} (hspells : Spells value e)
    (hspells' : Spells value' e') (h : Quoting e e') : Quoting (.text value) (.text value')

theorem Quoting.ne_tuple {e e' : Expr} (h : Quoting e e') (items : List Expr) :
    e' ≠ .tuple items := by
  cases h <;> simp

theorem subscriptArguments_of_ne_tuple {e : Expr} (h : ∀ items, e ≠ .tuple items) :
    subscriptArguments e = [e] := by
  cases e with
  | tuple items => exact absurd rfl (h items)
  | _ => rfl

/-- The argument that counts gives the type of a subscript. -/
theorem resolve_at_place (s : Scope) {value index e : Expr} {place : Nat}
    (hplace : argumentPlace? value = some place) (h : (subscriptArguments index)[place]? = some e) :
    s.resolve (.subscript value index) = s.resolve e := by
  refine s.resolve_argument ?_
  rw [wrapped?_eq, hplace, Option.map_some, h]

/-- Quotes at a type position leave the type. -/
theorem resolve_of_quoting (s : Scope) {e e' : Expr} (h : Quoting e e') :
    s.resolve e' = s.resolve e := by
  induction h with
  | whole h => exact s.resolve_spelled h
  | @only value e e' hplace htuple h ih =>
    have hargument : s.resolve (.subscript value e) = s.resolve e := by
      refine s.resolve_at_place hplace ?_
      rw [subscriptArguments_of_ne_tuple htuple]
      rfl
    have hargument' : s.resolve (.subscript value e') = s.resolve e' := by
      refine s.resolve_at_place hplace ?_
      rw [subscriptArguments_of_ne_tuple h.ne_tuple]
      rfl
    rw [hargument, hargument', ih]
  | @among value e e' before after hplace h ih =>
    have hargument : ∀ argument, s.resolve (.subscript value (.tuple (before ++ argument :: after)))
        = s.resolve argument := by
      intro argument
      refine s.resolve_at_place hplace ?_
      simp [subscriptArguments]
    rw [hargument, hargument, ih]
  | left right h ih => rw [resolve_union, resolve_union, ih]
  | right left h ih => rw [resolve_union, resolve_union, ih]
  | within hspells hspells' h ih =>
    rw [s.resolve_spelled hspells, s.resolve_spelled hspells', ih]

/-- **Quotes do not change a type.** However often expressions at type positions are put in quotes,
the annotation refers to the same type, in every scope; a look-up that fails goes on failing with
the same fault. -/
theorem resolve_of_quotings {e e' : Expr} (h : Relation.ReflTransGen Quoting e e') (s : Scope) :
    s.resolve e' = s.resolve e := by
  induction h with
  | refl => rfl
  | tail _ hlast ih => rw [s.resolve_of_quoting hlast, ih]

theorem spells_shop : Spells ("Shop".toList.map Char.toNat) (.name "Shop") :=
  ⟨by decide, by cbv⟩

theorem spells_quoted_shop :
    Spells ("'Shop'".toList.map Char.toNat) (.text ("Shop".toList.map Char.toNat)) :=
  ⟨by decide, by cbv⟩

/-- A name in quotes within quotes, as an argument at the side of a union. -/
theorem resolve_of_quotings_shop :
    Relation.ReflTransGen Quoting
      (.union (.subscript (.name "Optional") (.name "Shop")) .literal)
      (.union (.subscript (.name "Optional") (.text ("'Shop'".toList.map Char.toNat))) .literal) ∧
    resolve { moduleName := "mall", classes := ["Shop"] }
      (.union (.subscript (.name "Optional") (.text ("'Shop'".toList.map Char.toNat))) .literal)
        = .ok (some (.pair "mall" "Shop")) := by
  have hplace : argumentPlace? (.name "Optional") = some 0 := by decide
  have honce := Quoting.left .literal (.only hplace (by simp) (.whole spells_shop))
  have htwice := Quoting.left .literal (.only hplace (by simp) (.whole spells_quoted_shop))
  have hquotings := (Relation.ReflTransGen.single honce).tail htwice
  refine ⟨hquotings, (resolve_of_quotings hquotings _).trans ?_⟩
  rw [resolve_union, resolve_at_place _ hplace rfl, resolve_eq_lookUp]
  rfl

end ClassDiagram.Scope
