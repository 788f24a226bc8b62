import ClassDiagram.Analysis.TypeResolution
import ClassDiagram.Proofs.Source.Extent

/-!
Strings within strings. The look-up of a type reads a string as an expression, and the strings in
that one in their turn. `Scope.lookUp` is one round of it, with the look-ups that it asks for left
open, and `Scope.Asks` says which these are. A string in an expression is shorter than the text that
the expression is read from, so no sequence of rounds goes on for ever, and strings nest no deeper
than the outermost text is long (`Scope.strings_nest_finitely`).
-/

namespace ClassDiagram

open Source (Expr)
open Text (CodePoint)

namespace Annotation

/-- A text without a fault that the grammar reads as an expression. -/
structure Spells (value : List CodePoint) (e : Expr) : Prop where
  faultless : fault? value = none
  read : Expr.ofText? (value.map Char.ofNat) = some e

variable {value : List CodePoint} {e : Expr}

theorem Spells.longestText_lt (h : Spells value e) : e.longestText < value.length := by
  have hlength := Expr.longestText_lt_of_ofText? h.read
  rwa [List.length_map] at hlength

theorem expression?_of_fault {fault : TextFault} (h : fault? value = some fault) :
    expression? value = .error fault := by
  simp [expression?, h]

theorem expression?_of_unread (hfault : fault? value = none)
    (hread : Expr.ofText? (value.map Char.ofNat) = none) : expression? value = .ok none := by
  simp [expression?, hfault, hread]

/-- What a text spells is never put aside for its length. -/
theorem expression?_of_spells (h : Spells value e) :
    expression? value = .ok (some ⟨e, h.longestText_lt⟩) := by
  simp [expression?, h.faultless, h.read, h.longestText_lt]

end Annotation

namespace Scope

open Annotation (Spells fault? expression?_of_fault expression?_of_unread expression?_of_spells)

/-! ## Rounds -/

/-- The look-up of one expression can ask for that of another. -/
inductive Asks : Expr → Expr → Prop
  /-- A string asks for the expression that it spells. -/
  | quoted {value : List CodePoint} {e : Expr} (h : Spells value e) : Asks (.text value) e
  | argument {value index argument : Expr} (h : wrapped? value index = some (some argument)) :
    Asks (.subscript value index) argument
  | subscripted {value index : Expr} (h : wrapped? value index = none) :
    Asks (.subscript value index) value
  | left (left right : Expr) : Asks (.union left right) left
  | right (left right : Expr) : Asks (.union left right) right

/-- One round of a look-up, with the answers to what it asks for. -/
def lookUp (s : Scope) (e : Expr)
    (answer : ∀ inner, Asks e inner → Except TextFault (Option QualifiedName)) :
    Except TextFault (Option QualifiedName) :=
  match e with
  | .text value =>
    match hfault : fault? value with
    | some fault => .error fault
    | none =>
      match hread : Expr.ofText? (value.map Char.ofNat) with
      | some e => answer e (.quoted ⟨hfault, hread⟩)
      | none => .ok none
  | .subscript value index =>
    match h : wrapped? value index with
    | some (some argument) => answer argument (.argument h)
    | some none => .ok none
    | none => answer value (.subscripted h)
  | .union left right =>
    answer left (.left left right) >>= fun
      | some q => .ok (some q)
      | none => answer right (.right left right)
  | e => .ok (s.resolveChain e.chain)

/-- A look-up is a round, whose questions are answered by look-ups. -/
theorem resolve_eq_lookUp (s : Scope) (e : Expr) :
    s.resolve e = s.lookUp e fun inner _ => s.resolve inner := by
  cases e with
  | text value =>
    rw [resolve_text, lookUp]
    split
    · rename_i fault hfault
      rw [expression?_of_fault hfault]
      rfl
    · rename_i hfault
      split
      · rename_i e hread
        rw [expression?_of_spells ⟨hfault, hread⟩]
        rfl
      · rename_i hread
        rw [expression?_of_unread hfault hread]
        rfl
  | subscript value index =>
    rw [lookUp]
    split
    · rename_i argument h
      exact s.resolve_argument h
    · rename_i h
      exact s.resolve_missing h
    · rename_i h
      exact s.resolve_subscripted h
  | union left right => exact s.resolve_union left right
  | _ =>
    rw [resolve] <;> simp [lookUp, pure, Except.pure]

/-! ## Every look-up ends -/

/-- A string in the answered expression is not longer than one in the asking expression, and shorter
if the round reads a string. -/
theorem Asks.longestText_le {outer inner : Expr} (h : Asks outer inner) :
    inner.longestText ≤ outer.longestText := by
  cases h with
  | quoted h => exact Nat.le_of_lt h.longestText_lt
  | argument h =>
    have hargument := longestText_argument (mem_of_wrapped? h)
    simp only [Expr.longestText]
    omega
  | subscripted | left | right =>
    simp only [Expr.longestText]
    omega

/-- A round that reads no string asks for parts of the expression. -/
theorem Asks.sizeOf_lt {outer inner : Expr} (h : Asks outer inner)
    (hread : ∀ value, outer ≠ .text value) : sizeOf inner < sizeOf outer := by
  cases h with
  | quoted => exact absurd rfl (hread _)
  | argument h =>
    have hargument := sizeOf_argument (mem_of_wrapped? h)
    simp only [Expr.subscript.sizeOf_spec]
    omega
  | subscripted =>
    simp only [Expr.subscript.sizeOf_spec]
    omega
  | left | right =>
    simp only [Expr.union.sizeOf_spec]
    omega

/-- No sequence of rounds goes on for ever: strings get shorter when one is read, and expressions
get smaller otherwise. -/
theorem wellFounded_asks : WellFounded fun inner outer => Asks outer inner := by
  have hlex := InvImage.wf (fun e : Expr => (e.longestText, sizeOf e))
    (Prod.lex Nat.lt_wfRel Nat.lt_wfRel).wf
  refine Subrelation.wf (fun {inner outer} h => ?_) hlex
  by_cases hread : ∀ value, outer ≠ .text value
  · exact Prod.Lex.right' _ h.longestText_le (h.sizeOf_lt hread)
  · cases h with
    | quoted h => exact Prod.Lex.left _ _ h.longestText_lt
    | _ => exact absurd nofun hread

/-! ## Nested strings -/

/-- Texts that are read one within another in the look-up of an expression, the outermost first;
the innermost may turn out to be none of an expression. -/
inductive Nest : Expr → List (List CodePoint) → Prop
  | nil (e : Expr) : Nest e []
  | innermost (value : List CodePoint) : Nest (.text value) [value]
  | within {value : List CodePoint} {e : Expr} {texts : List (List CodePoint)} (h : Spells value e)
    (hnest : Nest e texts) : Nest (.text value) (value :: texts)
  | part {outer inner : Expr} {texts : List (List CodePoint)} (h : Asks outer inner)
    (hread : ∀ value, outer ≠ .text value) (hnest : Nest inner texts) : Nest outer texts

/-- Nested texts get shorter from one to the next. -/
theorem Nest.decreasing {e : Expr} {texts : List (List CodePoint)} (h : Nest e texts) {n : Nat}
    (hn : e.longestText < n) : (n :: texts.map List.length).Pairwise (· > ·) := by
  induction h generalizing n with
  | nil => simp
  | innermost value => simpa [Expr.longestText] using hn
  | @within value e texts hspells _ ih =>
    have hinner := ih hspells.longestText_lt
    have houter : value.length < n := hn
    rw [List.map_cons, List.pairwise_cons]
    refine ⟨fun m hm => ?_, hinner⟩
    rcases List.mem_cons.mp hm with rfl | hm
    · exact houter
    · have hm : m < value.length := List.rel_of_pairwise_cons hinner hm
      omega
  | part hasks _ _ ih => exact ih (Nat.lt_of_le_of_lt hasks.longestText_le hn)

/-- Decreasing numbers below a number are no more than it. -/
theorem length_le_of_decreasing {n : Nat} {ns : List Nat} (h : (n :: ns).Pairwise (· > ·)) :
    ns.length ≤ n := by
  induction ns generalizing n with
  | nil => exact Nat.zero_le n
  | cons m ns ih =>
    have hm : m < n := List.rel_of_pairwise_cons h List.mem_cons_self
    have hlength := ih (List.Pairwise.of_cons h)
    rw [List.length_cons]
    omega

/-- **Every look-up ends.** It goes by rounds, and no sequence of rounds from an expression goes on
for ever. A round that reads no string asks for smaller expressions; a string that is read within
another text is shorter than this, so there are no more of them, one within another, than the text
has characters. -/
theorem strings_nest_finitely (s : Scope) {text : List Char} {e : Expr}
    (h : Expr.ofText? text = some e) :
    (∀ outer, s.resolve outer = s.lookUp outer fun inner _ => s.resolve inner) ∧
    Acc (fun inner outer => Asks outer inner) e ∧
    (∀ outer inner, Asks outer inner → (∀ value, outer ≠ .text value) →
      sizeOf inner < sizeOf outer) ∧
    ∀ texts, Nest e texts →
      (text.length :: texts.map List.length).Pairwise (· > ·) ∧ texts.length ≤ text.length := by
  refine ⟨s.resolve_eq_lookUp, wellFounded_asks.apply e, fun _ _ => Asks.sizeOf_lt, ?_⟩
  intro texts hnest
  have hdecreasing := hnest.decreasing (Expr.longestText_lt_of_ofText? h)
  have hlength := length_le_of_decreasing hdecreasing
  rw [List.length_map] at hlength
  exact ⟨hdecreasing, hlength⟩

/-- A name in quotes, and these in quotes again. -/
theorem strings_nest_finitely_shop :
    Expr.ofText? "'\"Shop\"'".toList = some (.text ("\"Shop\"".toList.map Char.toNat)) ∧
    Nest (.text ("\"Shop\"".toList.map Char.toNat))
      ["\"Shop\"".toList.map Char.toNat, "Shop".toList.map Char.toNat] ∧
    2 ≤ "'\"Shop\"'".toList.length := by
  have houter : Expr.ofText? "'\"Shop\"'".toList
      = some (.text ("\"Shop\"".toList.map Char.toNat)) := by cbv
  have hinner : Spells ("\"Shop\"".toList.map Char.toNat) (.text ("Shop".toList.map Char.toNat)) :=
    ⟨by decide, by cbv⟩
  have hnest := Nest.within hinner (.innermost _)
  have hends := strings_nest_finitely { moduleName := "mall" } houter
  exact ⟨houter, hnest, (hends.2.2.2 _ hnest).2⟩

end Scope

end ClassDiagram
