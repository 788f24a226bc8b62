import ClassDiagram.Proofs.Text.Normal
import ClassDiagram.Source.Numeral
import ClassDiagram.Source.Stmt
import ClassDiagram.Text.Parts

/-!
Syntax trees whose identifiers are words. A word is not empty and holds only letters, digits,
underscores and characters beyond ASCII (`IsWord`), so it holds none of the marks that set the
segments of names apart. `Expr.Named` and `Stmt.Named` say it of all identifiers of a tree.
-/

namespace ClassDiagram.Source

/-- A text that an identifier can be. -/
structure IsWord (s : String) : Prop where
  nonempty : s ≠ ""
  chars : ∀ c ∈ s.toList, Numeral.isWordChar c = true

instance (s : String) : Decidable (IsWord s) :=
  decidable_of_iff (s ≠ "" ∧ s.toList.all Numeral.isWordChar = true)
    ⟨fun ⟨h, hc⟩ => ⟨h, List.all_eq_true.mp hc⟩,
      fun h => ⟨h.nonempty, List.all_eq_true.mpr h.chars⟩⟩

namespace IsWord

variable {s : String}

/-- A character that no word is made of is not in a word. -/
theorem not_mem (h : IsWord s) {c : Char} (hc : Numeral.isWordChar c = false) : c ∉ s.toList :=
  fun hmem => absurd ((h.chars c hmem).symm.trans hc) (by decide)

theorem point (h : IsWord s) : '.' ∉ s.toList := h.not_mem rfl

theorem slash (h : IsWord s) : '/' ∉ s.toList := h.not_mem rfl

theorem bar (h : IsWord s) : '|' ∉ s.toList := h.not_mem rfl

theorem isWordCode_toNat (c : Char) : Text.isWordCode c.toNat = Numeral.isWordChar c := by
  have hunderscore : (c.toNat == '_'.toNat) = (c == '_') := by
    rw [Bool.eq_iff_iff, beq_iff_eq, beq_iff_eq]
    exact ⟨fun h => Char.toNat_inj.mp h, congrArg Char.toNat⟩
  rw [Text.isWordCode, Numeral.isWordChar, Char.ofNat_toNat, hunderscore]
  by_cases h : c.toNat < 128
  · rw [if_pos h, decide_eq_false (Nat.not_le.mpr h), Bool.or_false]
  · rw [if_neg h, decide_eq_true (Nat.not_lt.mp h), Bool.or_true]
    exact decide_eq_true c.valid

/-- Normalized, a word is a word. -/
theorem normalize (h : IsWord s) : IsWord (Text.Normal.normalize s) := by
  have hword : Text.Normal.WordCodes (s.toList.map Char.toNat) := by
    refine ⟨fun hnil => h.nonempty ?_, List.forall_mem_map.mpr fun c hc => ?_⟩
    · exact String.toList_eq_nil_iff.mp (List.map_eq_nil_iff.mp hnil)
    · exact (isWordCode_toNat c).trans (h.chars c hc)
  have hnormal := Text.Normal.word_normalizeChars hword
  refine ⟨fun hempty => hnormal.nonempty ?_, fun c hc => ?_⟩
  · rw [Text.Normal.normalize, String.ofList_eq_empty_iff] at hempty
    rw [hempty]
    rfl
  · rw [Text.Normal.normalize, String.toList_ofList] at hc
    exact (isWordCode_toNat c).symm.trans (hnormal.codes _ (List.mem_map_of_mem hc))

end IsWord

/-! ## Expressions -/

inductive Expr.Named : Expr → Prop
  | name {id : String} (h : IsWord id) : Named (.name id)
  | text (value : List Text.CodePoint) : Named (.text value)
  | literal : Named .literal
  | member {value : Expr} {attr : String} (hvalue : Named value) (hattr : IsWord attr) :
    Named (.member value attr)
  | subscript {value index : Expr} (hvalue : Named value) (hindex : Named index) :
    Named (.subscript value index)
  | tuple {items : List Expr} (h : ∀ item ∈ items, Named item) : Named (.tuple items)
  | list {items : List Expr} (h : ∀ item ∈ items, Named item) : Named (.list items)
  | starred {value : Expr} (h : Named value) : Named (.starred value)
  | call {function : Expr} (h : Named function) : Named (.call function)
  | union {left right : Expr} (hleft : Named left) (hright : Named right) :
    Named (.union left right)
  | other : Named .other

/-- The identifiers of a chain are words. -/
theorem Expr.Named.chain {e : Expr} (h : e.Named) : ∀ id ∈ e.chain, IsWord id := by
  induction h with
  | name h =>
    intro id hid
    rw [List.mem_singleton.mp hid]
    exact h
  | @member value attr hvalue hattr ih =>
    intro id hid
    rw [Expr.chain_member] at hid
    split at hid
    · cases hid
    · rcases List.mem_append.mp hid with hid | hid
      · exact ih id hid
      · rw [List.mem_singleton.mp hid]
        exact hattr
  | _ =>
    intro id hid
    cases hid

/-! ## Statements -/

/-- All parameters of a function. -/
def Parameters.all (ps : Parameters) : List Parameter :=
  ps.positionalOnly ++ ps.positional ++ ps.variadic.toList ++ ps.keywordOnly
    ++ ps.keywordVariadic.toList

structure Parameter.Named (p : Parameter) : Prop where
  name : IsWord p.name
  hint : ∀ e ∈ p.hint, e.Named

structure FunctionHead.Named (f : FunctionHead) : Prop where
  name : IsWord f.name
  parameters : ∀ p ∈ f.parameters.all, p.Named
  returns : ∀ e ∈ f.returns, e.Named
  decorators : ∀ e ∈ f.decorators, e.Named

/-- Words parted by points. -/
def IsDotted (name : String) : Prop := ∀ s ∈ Text.Dotted.segments name, IsWord s

/-- An alias with a name of the given kind. -/
structure Alias.Names (kind : String → Prop) (a : Alias) : Prop where
  name : kind a.name
  bound : ∀ id ∈ a.bound, IsWord id

/-- What a `from` import can name: a member of a module, or all of them. -/
def IsMember (name : String) : Prop := name = "*" ∨ IsWord name

inductive Stmt.Named : Stmt → Prop
  | classDef {name : String} {bases : List Expr} {body : List Stmt} (hname : IsWord name)
    (hbases : ∀ e ∈ bases, e.Named) (hbody : ∀ stmt ∈ body, Named stmt) :
    Named (.classDef name bases body)
  | functionDef {head : FunctionHead} {body : List Stmt} (hhead : head.Named)
    (hbody : ∀ stmt ∈ body, Named stmt) : Named (.functionDef head body)
  | importModules {aliases : List Alias} (h : ∀ a ∈ aliases, a.Names IsDotted) :
    Named (.importModules aliases)
  | importFrom {source : Option String} {aliases : List Alias} (level : Nat)
    (hsource : ∀ name ∈ source, IsDotted name) (h : ∀ a ∈ aliases, a.Names IsMember) :
    Named (.importFrom source aliases level)
  | annotated {target hint : Expr} (htarget : target.Named) (hhint : hint.Named) :
    Named (.annotated target hint)
  | assign {targets : List Expr} (h : ∀ e ∈ targets, e.Named) : Named (.assign targets)
  | compound {parts : List Stmt} (h : ∀ stmt ∈ parts, Named stmt) : Named (.compound parts)
  | other : Named .other

end ClassDiagram.Source
