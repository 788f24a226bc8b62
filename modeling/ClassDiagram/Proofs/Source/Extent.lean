import Mathlib
import ClassDiagram.Proofs.Source.Grammar
import ClassDiagram.Proofs.Source.Lexer
import ClassDiagram.Source.Program

/-!
How much of a text its tokens take. A string literal takes its value and two quotes at least
(`Token.extent`), since no escape stands for more characters than it is written with; so the
literals among the tokens of a text fit into it (`Lexer.extents_le_of_scan`), and a string in an
expression is shorter than the text that the expression is read from
(`Expr.longestText_lt_of_ofText?`).
-/

namespace ClassDiagram.Source

/-! ## Numerals -/

namespace Numeral

variable {p : Char → Bool} {cs rest : List Char} {b : Bool}

theorem length_digits_le (h : digits p cs = some rest) : rest.length ≤ cs.length := by
  fun_induction digits p cs <;> grind

theorem length_someDigits_le (h : someDigits p cs = some rest) : rest.length ≤ cs.length := by
  unfold someDigits at h
  grind [→ length_digits_le, = Option.bind_eq_some_iff]

theorem length_ended_le {imaginary : Bool} (h : ended imaginary cs = some (b, rest)) :
    rest.length ≤ cs.length := by
  unfold ended at h
  grind

theorem length_suffix_le (h : suffix cs = some (b, rest)) : rest.length ≤ cs.length := by
  unfold suffix at h
  grind [→ length_ended_le, = Option.bind_eq_some_iff]

theorem length_exponent_le (h : exponent cs = some (b, rest)) : rest.length ≤ cs.length := by
  unfold exponent at h
  grind [→ length_ended_le, → length_suffix_le, → length_digits_le, = Option.bind_eq_some_iff]

theorem length_fraction_le (h : fraction cs = some (b, rest)) : rest.length ≤ cs.length := by
  unfold fraction at h
  grind [→ length_exponent_le, → length_digits_le, = Option.bind_eq_some_iff]

theorem length_zeros_le (h : zeros cs = some rest) : rest.length ≤ cs.length := by
  fun_induction zeros cs <;> grind

theorem length_afterWhole_le {octalLike : Bool} (h : afterWhole octalLike cs = some (b, rest)) :
    rest.length ≤ cs.length := by
  unfold afterWhole at h
  grind [→ length_exponent_le, → length_fraction_le, → length_ended_le, = Option.bind_eq_some_iff]

theorem length_radix_le (h : radix p cs = some (b, rest)) : rest.length ≤ cs.length := by
  unfold radix at h
  grind [→ length_someDigits_le, → length_ended_le, = Option.bind_eq_some_iff]

/-- A numeral leaves no more than it is read from. -/
theorem length_scan_le (h : scan cs = some (b, rest)) : rest.length ≤ cs.length := by
  unfold scan at h
  split at h
  -- numerals with a leading zero, and those without, can go on in several ways
  case h_8 =>
    obtain ⟨more, hmore, h⟩ := Option.bind_eq_some_iff.mp h
    have hzeros := length_zeros_le hmore
    grind [→ length_digits_le, → length_afterWhole_le, = Option.bind_eq_some_iff]
  case h_9 =>
    obtain ⟨h, -⟩ := Option.filter_eq_some_iff.mp h
    grind [→ length_digits_le, → length_afterWhole_le, = Option.bind_eq_some_iff]
  all_goals grind [→ length_fraction_le, → length_radix_le]

end Numeral

/-! ## String literals -/

namespace Literal

variable {cs rest : List Char} {value : List Text.CodePoint}

theorem length_fixedHex?_le {width n : Nat} (h : fixedHex? width cs = some (n, rest)) :
    rest.length ≤ cs.length := by
  unfold fixedHex? at h
  split at h
  · cases h
  · obtain ⟨_, -, h⟩ := Option.map_eq_some_iff.mp h
    cases h
    exact (List.drop_suffix width cs).length_le

theorem length_named?_le {n : Text.CodePoint} (h : named? cs = some (n, rest)) :
    rest.length ≤ cs.length := by
  unfold named? at h
  split at h
  · rename_i inner
    split at h
    · cases h
    · rename_i hdrop
      obtain ⟨_, -, h⟩ := Option.map_eq_some_iff.mp h
      cases h
      have hsuffix := List.dropWhile_suffix (fun c => decide (c ≠ '\x7d')) (l := inner)
      rw [hdrop] at hsuffix
      exact ((List.suffix_cons _ _).trans (hsuffix.trans (List.suffix_cons _ _))).length_le
  · cases h

/-- An escape stands for no more characters than it is written with, the backslash counted. -/
theorem length_escape?_le (h : escape? cs = some (value, rest)) :
    value.length + rest.length ≤ cs.length + 1 := by
  unfold escape? at h
  grind [→ length_fixedHex?_le, → length_named?_le, = Option.bind_eq_some_iff,
    = Option.map_eq_some_iff]

theorem length_decodeLoop_le {fuel : Nat} (h : decodeLoop fuel cs = some value) :
    value.length ≤ cs.length := by
  fun_induction decodeLoop fuel cs generalizing value with
  | case1 | case3 =>
    cases h
    exact Nat.zero_le _
  | case2 => cases h
  | case4 fuel cs ih =>
    obtain ⟨⟨front, rest⟩, hescape, h⟩ := Option.bind_eq_some_iff.mp h
    obtain ⟨back, hback, h⟩ := Option.bind_eq_some_iff.mp h
    cases h
    have hfront := length_escape?_le hescape
    have hrest := ih _ hback
    rw [List.length_append, List.length_cons]
    omega
  | case5 fuel c cs _ ih =>
    obtain ⟨back, hback, h⟩ := Option.bind_eq_some_iff.mp h
    cases h
    exact Nat.succ_le_succ (ih hback)

end Literal

/-! ## Tokens -/

/-- How many characters of a text a token takes at least: a string takes its value and two
quotes. -/
def Token.extent : Token → Nat
  | text (.text value) => value.length + 2
  | _ => 0

def Token.extents (ts : List Token) : Nat := (ts.map extent).sum

theorem Token.extents_append (ts us : List Token) :
    extents (ts ++ us) = extents ts + extents us := by
  rw [extents, List.map_append, List.sum_append]
  rfl

theorem Token.extents_cons (t : Token) (ts : List Token) :
    extents (t :: ts) = t.extent + extents ts := rfl

namespace Lexer

open Token (extent extents)

variable {field : List Char → Bool} {quote : Char} {cs body rest : List Char} {ts : List Token}

theorem length_closeSingle (h : closeSingle quote cs = some (body, rest)) :
    body.length + rest.length + 1 = cs.length := by
  fun_induction closeSingle quote cs generalizing body <;> grind [= Option.map_eq_some_iff]

theorem length_closeTriple (h : closeTriple quote cs = some (body, rest)) :
    body.length + rest.length + 3 = cs.length := by
  fun_induction closeTriple quote cs generalizing body <;> grind [= Option.map_eq_some_iff]

theorem length_closeQuote_le (h : closeQuote quote cs = some (body, rest)) :
    body.length + rest.length + 1 ≤ cs.length := by
  unfold closeQuote at h
  split at h
  · have hlength := length_closeTriple h
    rw [List.length_drop] at hlength
    omega
  · exact Nat.le_of_eq (length_closeSingle h)

theorem extent_le_of_literal? {p : StringPrefix} {literal : Literal}
    (h : literal? field p body = some literal) : (Token.text literal).extent ≤ body.length + 2 := by
  cases literal with
  | bytes | formatted => exact Nat.zero_le _
  | text value =>
    refine Nat.add_le_add_right ?_ 2
    unfold literal? at h
    split at h
    · grind
    · split at h
      · grind
      · split at h
        · cases h
          exact Nat.le_of_eq (List.length_map _)
        · obtain ⟨value, hvalue, h⟩ := Option.map_eq_some_iff.mp h
          cases h
          exact Literal.length_decodeLoop_le hvalue

/-- A round takes at least the extents of the tokens that it gives. -/
theorem Scanned.extents_le {new : List Token} (h : Scanned field cs new rest) :
    extents new + rest.length ≤ cs.length := by
  cases h with
  | layout hrest h =>
    have hnone : extents new = 0 := by
      refine List.sum_eq_zero_iff_forall_eq_nat.mpr fun n hn => ?_
      obtain ⟨t, ht, rfl⟩ := List.mem_map.mp hn
      rcases h t ht with rfl | rfl | rfl <;> rfl
    rw [hnone, Nat.zero_add]
    exact hrest.length_le
  | @word c cs t hc ht =>
    have hword : extents [t] = 0 := by
      rw [word?] at ht
      grind [extents, extent, Token.ofWord]
    rw [hword, Nat.zero_add]
    exact ((List.dropWhile_suffix _).trans (List.suffix_cons _ _)).length_le
  | @string p quote letters cs body rest literal hclose hliteral =>
    have hbody := length_closeQuote_le hclose
    have hextent := extent_le_of_literal? hliteral
    rw [Token.extents_cons, List.length_append, List.length_cons]
    change _ + 0 + _ ≤ _
    omega
  | number h => exact Nat.le_trans (Nat.le_of_eq (Nat.zero_add _)) (Numeral.length_scan_le h)
  | symbol h =>
    obtain ⟨symbol, -, h⟩ := List.exists_of_findSome?_eq_some h
    split at h
    · cases h
      exact Nat.le_trans (Nat.le_of_eq (Nat.zero_add _)) (List.drop_suffix _ cs).length_le
    · cases h

/-- **The strings among the tokens of a text fit into it**, with two quotes for each. -/
theorem extents_le_of_scan {fuel : Nat} {s : State} (h : scan field fuel s cs = some ts) :
    extents ts ≤ cs.length := by
  induction fuel generalizing s cs ts with
  | zero => cases h
  | succ fuel ih =>
    rcases scan_succ h with rfl | ⟨r, more, hscanned, hmore, rfl⟩
    · exact Nat.zero_le _
    · have hnew := hscanned.extents_le
      have hrest := ih hmore
      rw [Token.extents_append]
      omega

end Lexer

/-! ## Expressions -/

namespace Expr

theorem length_unify_le (cs : List Char) : (Text.Lines.unify cs).length ≤ cs.length := by
  fun_induction Text.Lines.unify cs <;> grind

/-- The values of string literals, as they are joined. -/
theorem length_values_le (literals : List Literal) :
    (literals.flatMap fun | .text value => value | _ => []).length
      ≤ Token.extents (literals.map .text) := by
  induction literals with
  | nil => exact Nat.le_refl 0
  | cons literal literals ih =>
    rw [List.flatMap_cons, List.length_append, List.map_cons, Token.extents_cons]
    refine Nat.add_le_add ?_ ih
    cases literal with
    | text value => exact Nat.le_add_right _ 2
    | bytes | formatted => exact Nat.le_refl 0

/-- Strings that are joined leave room for their quotes. -/
theorem longestText_joined {literals : List Literal} {e : Expr}
    (h : Grammar.joined literals = some e) :
    e.longestText = 0 ∨ e.longestText < Token.extents (literals.map .text) := by
  rw [Grammar.joined] at h
  split at h
  · cases h
    exact .inl rfl
  · rename_i hall
    split at h
    · cases h
    · rename_i hbytes
      split at h
      · cases h
        exact .inl rfl
      · rename_i hformatted
        cases h
        cases literals with
        | nil => exact absurd rfl hall
        | cons literal literals =>
          cases literal with
          | bytes => exact absurd rfl hbytes
          | formatted => exact absurd rfl hformatted
          | text value =>
            right
            rw [longestText, List.flatMap_cons, List.length_append, List.map_cons,
              Token.extents_cons]
            exact Nat.add_lt_add_of_lt_of_le (Nat.lt_add_of_pos_right Nat.two_pos)
              (length_values_le literals)

theorem longestTexts_lt {n : Nat} (hn : 0 < n) {items : List Expr}
    (h : ∀ item ∈ items, item.longestText < n) : longestText.longestTexts items < n := by
  induction items with
  | nil => exact hn
  | cons item items ih =>
    obtain ⟨hitem, hitems⟩ := List.forall_mem_cons.mp h
    exact Nat.max_lt.mpr ⟨hitem, ih hitems⟩

/-- Reading keeps strings shorter than a text that the tokens fit into. -/
theorem closed_longestText {n : Nat} (hn : 0 < n) :
    Grammar.Closed (fun ts => Token.extents ts ≤ n) (fun _ => True) (·.longestText < n) where
  tail h := Nat.le_trans (Nat.le_add_left _ _) h
  word _ := trivial
  joined {literals ts e} hts h := by
    rw [Token.extents_append] at hts
    have hjoined := longestText_joined h
    omega
  name _ := hn
  literal := hn
  member h _ := h
  subscript h h' := Nat.max_lt.mpr ⟨h, h'⟩
  tuple := longestTexts_lt hn
  list := longestTexts_lt hn
  starred h := h
  call h := h
  union h h' := Nat.max_lt.mpr ⟨h, h'⟩
  other := hn

theorem ofText?_nil : ofText? [] = none := by
  cbv

/-- **A string in an expression is shorter than the text that the expression is read from.** -/
theorem longestText_lt_of_ofText? {text : List Char} {e : Expr} (h : ofText? text = some e) :
    e.longestText < text.length := by
  obtain ⟨ts, hts, hread⟩ := Option.bind_eq_some_iff.mp h
  have hn : 0 < text.length := by
    refine List.length_pos_iff.mpr ?_
    rintro rfl
    cases ofText?_nil.symm.trans h
  have hextents : Token.extents ts ≤ text.length :=
    Nat.le_trans (Lexer.extents_le_of_scan hts) (length_unify_le text)
  rw [ofTokens?] at hread
  split at hread
  · rename_i found rest hfound
    split at hread
    · cases hread
      have hclosed := closed_longestText hn
      exact (Grammar.keeps_expressions hclosed (Grammar.keeps_read hclosed _) hextents hfound).1
    · cases hread
  · cases hread

end Expr

end ClassDiagram.Source
