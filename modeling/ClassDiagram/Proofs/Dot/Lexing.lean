import Mathlib.Data.List.Forall2
import ClassDiagram.Dot.Printer
import ClassDiagram.Proofs.Dot.Reader

/-!
The tokens of what is printed.

* `tokens?_quote` reads a written identifier back, in front of a character that ends words;
* `Lexes` and `LexesBefore` put texts together whose tokens are known, whatever stands behind them;
* `tokens?_text`: the tokens of a printed diagram are those of its statements in their order.
-/

namespace ClassDiagram.Dot

open Diagram (Cluster Edge Node)

/-! ## Identifiers -/

/-- A text that is read back from its written form: it holds no quote, is no markup, and its end
neither escapes the quote that closes it nor is a line break. -/
structure Quotable (cs : List Char) : Prop where
  quote : '"' ∉ cs
  markup : cs.head? ≠ some '<'
  escape : cs.getLast? ≠ some '\\'
  lineBreak : cs.getLast? ≠ some '\n'

/-- A character that ends a word or a numeral. -/
def isDelimiter (c : Char) : Bool := !isWordCharacter c && c ≠ '.'

theorem not_isWordCharacter {c : Char} (h : isDelimiter c = true) : isWordCharacter c = false := by
  rw [isDelimiter, Bool.and_eq_true, Bool.not_eq_true'] at h
  exact h.1

theorem ne_point {c : Char} (h : isDelimiter c = true) : c ≠ '.' := by
  rw [isDelimiter, Bool.and_eq_true, decide_eq_true_eq] at h
  exact h.2

theorem not_isDigit {c : Char} (h : isDelimiter c = true) : c.isDigit = false := by
  have hw := not_isWordCharacter h
  rw [isWordCharacter, Bool.or_eq_false_iff] at hw
  exact hw.2

theorem takeWhile_append_delimiter {p : Char → Bool} {cs rest : List Char} {d : Char}
    (hcs : cs.all p = true) (hd : p d = false) : (cs ++ d :: rest).takeWhile p = cs := by
  rw [List.takeWhile_append_of_pos (List.all_eq_true.mp hcs),
    List.takeWhile_cons_of_neg (by simp [hd]), List.append_nil]

theorem dropWhile_append_delimiter {p : Char → Bool} {cs rest : List Char} {d : Char}
    (hcs : cs.all p = true) (hd : p d = false) : (cs ++ d :: rest).dropWhile p = d :: rest := by
  rw [List.dropWhile_append_of_pos (List.all_eq_true.mp hcs),
    List.dropWhile_cons_of_neg (by simp [hd])]

theorem escapeFrom_of_not_mem {cs : List Char} (h : '"' ∉ cs) (n : Nat) :
    escapeFrom n cs = List.replicate n '\\' ++ cs := by
  induction cs generalizing n with
  | nil => rw [escapeFrom, List.append_nil]
  | cons c cs ih =>
    rw [List.mem_cons, not_or] at h
    rw [escapeFrom]
    split
    · rename_i hc
      rw [ih h.2, hc, List.replicate_succ', List.append_assoc]
      rfl
    · rw [if_neg (Ne.symm h.1), ih h.2]
      rfl

theorem quoted?_append {cs : List Char} (hquote : '"' ∉ cs) (hescape : cs.getLast? ≠ some '\\')
    (rest : List Char) : quoted? (cs ++ '"' :: rest) = some (cs, rest) := by
  induction cs with
  | nil => rw [List.nil_append, quoted?]
  | cons c cs ih =>
    rw [List.mem_cons, not_or] at hquote
    have hlast : cs.getLast? ≠ some '\\' := by
      intro h
      cases cs with
      | nil => cases h
      | cons => exact hescape (by rw [List.getLast?_cons_cons]; exact h)
    rw [List.cons_append, quoted?, ih hquote.2 hlast]
    · rfl
    · exact fun he => hquote.1 he.symm
    · -- an escape needs a quote behind it, which only the closing quote could be
      rintro tail rfl he
      cases cs with
      | nil => exact hescape rfl
      | cons b bs =>
        rw [List.cons_append, List.cons.injEq] at he
        exact hquote.2 (he.1 ▸ List.mem_cons_self)

theorem any_isDigit_of_isUnsigned {cs : List Char} (h : isUnsigned cs = true) :
    cs.any Char.isDigit = true := by
  unfold isUnsigned at h
  split at h
  · rename_i hnil
    cases cs with
    | nil => cases h
    | cons c cs =>
      have hall : (c :: cs).all Char.isDigit = true := by
        rw [← List.takeWhile_append_dropWhile (p := Char.isDigit) (l := c :: cs), hnil,
          List.append_nil]
        exact List.all_takeWhile
      rw [List.all_cons, Bool.and_eq_true] at hall
      rw [List.any_cons, hall.1, Bool.true_or]
  · rw [Bool.and_eq_true] at h
    exact h.2
  · cases h

theorem digits_append {cs : List Char} (h : isUnsigned cs = true) {d : Char}
    (hd : isDelimiter d = true) (rest : List Char) :
    digits (cs ++ d :: rest) = (cs, d :: rest) := by
  have hsplit := List.takeWhile_append_dropWhile (p := Char.isDigit) (l := cs)
  have hall : (cs.takeWhile Char.isDigit).all Char.isDigit = true := List.all_takeWhile
  unfold isUnsigned at h
  split at h
  · rename_i hnil
    rw [hnil, List.append_nil] at hsplit
    rw [hsplit] at hall
    unfold digits
    rw [dropWhile_append_delimiter hall (not_isDigit hd),
      takeWhile_append_delimiter hall (not_isDigit hd)]
    split
    · rename_i tail he
      rw [List.cons.injEq] at he
      exact absurd he.1 (ne_point hd)
    · rfl
  · rename_i fraction hpoint
    rw [hpoint] at hsplit
    rw [Bool.and_eq_true] at h
    unfold digits
    rw [← hsplit, List.append_assoc, List.cons_append,
      dropWhile_append_delimiter hall (by decide), takeWhile_append_delimiter hall (by decide)]
    simp only [takeWhile_append_delimiter h.1 (not_isDigit hd),
      dropWhile_append_delimiter h.1 (not_isDigit hd)]
  · cases h

theorem unsigned?_append {cs : List Char} (h : isUnsigned cs = true) {d : Char}
    (hd : isDelimiter d = true) (rest : List Char) :
    unsigned? (cs ++ d :: rest) = some (cs, d :: rest) := by
  rw [unsigned?, digits_append h hd, if_pos (any_isDigit_of_isUnsigned h)]

/-- The characters that a numeral can begin with. -/
theorem head_of_isUnsigned {c : Char} {cs : List Char} (h : isUnsigned (c :: cs) = true) :
    c.isDigit = true ∨ c = '.' := by
  by_cases hc : c.isDigit = true
  · exact .inl hc
  · refine .inr ?_
    rw [isUnsigned, List.dropWhile_cons_of_neg hc] at h
    split at h
    · rename_i hnil
      cases hnil
    · rename_i he
      rw [List.cons.injEq] at he
      exact he.1
    · cases h

/-! ## Written identifiers -/

theorem isLetter_of_isDigit {c : Char} (h : c.isDigit = true) : isLetter c = false := by
  simp only [Char.isDigit, Bool.and_eq_true, decide_eq_true_eq, ge_iff_le,
    UInt32.le_iff_toNat_le] at h
  have hletter : isLetter c = (decide (c.val ≥ 'A'.val ∧ c.val ≤ 'Z'.val) ||
      (c.val ≥ 'a'.val && c.val ≤ 'z'.val) || c = '_' || 128 ≤ c.toNat) := rfl
  simp only [hletter, Bool.or_eq_false_iff, Bool.and_eq_false_iff, decide_eq_false_iff_not,
    ge_iff_le, UInt32.le_iff_toNat_le, Char.toNat]
  have h48 : '0'.val.toNat = 48 := rfl
  have h57 : '9'.val.toNat = 57 := rfl
  have h65 : 'A'.val.toNat = 65 := rfl
  have h97 : 'a'.val.toNat = 97 := rfl
  refine ⟨⟨⟨?_, ?_⟩, ?_⟩, ?_⟩
  · omega
  · omega
  · rintro rfl
    exact absurd h (by decide)
  · omega

theorem sign?_of_isWordCharacter {c : Char} (h : isWordCharacter c = true) : sign? c = none := by
  unfold sign?
  split <;> first | rfl | exact absurd h (by decide)

theorem isBlank_of_isWordCharacter {c : Char} (h : isWordCharacter c = true) :
    isBlank c = false := by
  simp only [isBlank, Bool.or_eq_false_iff, decide_eq_false_iff_not]
  refine ⟨⟨⟨?_, ?_⟩, ?_⟩, ?_⟩ <;> rintro rfl <;> exact absurd h (by decide)

theorem ne_quote_of_isWordCharacter {c : Char} (h : isWordCharacter c = true) : c ≠ '"' := by
  rintro rfl
  exact absurd h (by decide)

theorem isLetter_of_isWordStart {c : Char} (h : isWordStart c = true) : isLetter c = true := by
  rw [isWordStart] at h
  rw [isLetter, h, Bool.true_or]

theorem isWordCharacter_of_isWordPart {c : Char} (h : isWordPart c = true) :
    isWordCharacter c = true := by
  simp only [isWordPart, Char.isAlphanum, Bool.or_eq_true] at h
  simp only [isWordCharacter, isLetter, Bool.or_eq_true]
  rcases h with (h | h) | h
  · exact .inl (.inl (.inl h))
  · exact .inr h
  · exact .inl (.inl (.inr h))

theorem ofWord_of_not_keyword {word : List Char}
    (h : keywords.contains (word.map Char.toLower) = false) :
    ofWord word = .id (String.ofList word) := by
  have hnone : Keyword.ofWord? word = none := by
    refine List.find?_eq_none.mpr fun k _ hk => ?_
    have hmem : k.text ∈ keywords := by cases k <;> decide
    rw [eq_of_beq hk, ← List.contains_iff_mem, h] at hmem
    cases hmem
  rw [ofWord, hnone]

theorem tokens?_word {cs : List Char} (h : isWord cs = true)
    (hk : keywords.contains (cs.map Char.toLower) = false) {d : Char} (hd : isDelimiter d = true)
    (rest : List Char) : tokens? (cs ++ d :: rest)
      = (tokens? (d :: rest)).map (.id (String.ofList cs) :: ·) := by
  cases cs with
  | nil => cases h
  | cons c cs =>
    rw [isWord, Bool.and_eq_true] at h
    have hletter := isLetter_of_isWordStart h.1
    have hc : isWordCharacter c = true := by rw [isWordCharacter, hletter, Bool.true_or]
    have hcs : cs.all isWordCharacter = true :=
      List.all_eq_true.mpr fun a ha =>
        isWordCharacter_of_isWordPart (List.all_eq_true.mp h.2 a ha)
    rw [List.cons_append]
    refine tokens?_token (isBlank_of_isWordCharacter hc) ?_
    simp only [token?, sign?_of_isWordCharacter hc, if_neg (ne_quote_of_isWordCharacter hc)]
    rw [if_pos hletter, takeWhile_append_delimiter hcs (not_isWordCharacter hd),
      dropWhile_append_delimiter hcs (not_isWordCharacter hd), ofWord_of_not_keyword hk]

theorem numeral?_append {cs : List Char} (h : isNumeral cs = true) {d : Char}
    (hd : isDelimiter d = true) (rest : List Char) :
    numeral? (cs ++ d :: rest) = some (cs, d :: rest) := by
  unfold isNumeral at h
  split at h
  · rename_i cs
    rw [List.cons_append, numeral?, unsigned?_append h hd]
    rfl
  · rename_i hminus
    cases cs with
    | nil => cases h
    | cons c cs =>
      rw [List.cons_append, numeral?, ← List.cons_append, unsigned?_append h hd]
      rintro tail he
      exact hminus cs (by rw [List.cons.injEq] at he; rw [he.1])

theorem tokens?_numeral {cs : List Char} (h : isNumeral cs = true) {d : Char}
    (hd : isDelimiter d = true) (rest : List Char) : tokens? (cs ++ d :: rest)
      = (tokens? (d :: rest)).map (.id (String.ofList cs) :: ·) := by
  have hread := numeral?_append h hd rest
  cases cs with
  | nil => cases h
  | cons c cs =>
    have hc : isBlank c = false ∧ sign? c = none ∧ c ≠ '"' ∧ isLetter c = false ∧
        ¬ (c = '-' ∧ (cs ++ d :: rest).head? = some '>') := by
      unfold isNumeral at h
      split at h
      · rename_i number he
        rw [List.cons.injEq] at he
        obtain ⟨rfl, rfl⟩ := he
        refine ⟨by decide, by decide, by decide, by decide, fun hhead => ?_⟩
        cases cs with
        | nil => cases h
        | cons e cs =>
          have he : e = '>' := Option.some.inj hhead.2
          subst he
          exact absurd (head_of_isUnsigned h) (by decide)
      · rcases head_of_isUnsigned h with hdigit | rfl
        · have hw : isWordCharacter c = true := by rw [isWordCharacter, hdigit, Bool.or_true]
          refine ⟨isBlank_of_isWordCharacter hw, sign?_of_isWordCharacter hw,
            ne_quote_of_isWordCharacter hw, isLetter_of_isDigit hdigit, ?_⟩
          rintro ⟨rfl, -⟩
          exact absurd hdigit (by decide)
        · refine ⟨by decide, by decide, by decide, by decide, fun hhead => ?_⟩
          exact absurd hhead.1 (by decide)
    rw [List.cons_append]
    refine tokens?_token hc.1 ?_
    simp only [token?, hc.2.1, if_neg hc.2.2.1, hc.2.2.2.1, Bool.false_eq_true, if_false]
    rw [if_neg hc.2.2.2.2, ← List.cons_append, hread]
    rfl

/-- **A written identifier is read back.** -/
theorem tokens?_quote {cs : List Char} (h : Quotable cs) {d : Char} (hd : isDelimiter d = true)
    (rest : List Char) : tokens? (quote cs ++ d :: rest)
      = (tokens? (d :: rest)).map (.id (String.ofList cs) :: ·) := by
  have hbreak : withoutFinalBreak cs = cs := if_neg h.lineBreak
  have hmarkup : isMarkup cs = false := by
    unfold isMarkup
    split
    · exact absurd rfl h.markup
    · rfl
  unfold quote
  split
  · rename_i hbare
    rw [isBare, hmarkup, hbreak, Bool.false_or, Bool.and_eq_true, Bool.or_eq_true,
      Bool.not_eq_true'] at hbare
    rcases hbare.1 with hword | hnumeral
    · exact tokens?_word hword hbare.2 hd rest
    · exact tokens?_numeral hnumeral hd rest
  · have hescape : escape cs = cs := escapeFrom_of_not_mem h.quote 0
    rw [hescape, List.cons_append, List.append_assoc, List.singleton_append]
    refine tokens?_token (by decide) ?_
    simp only [token?, show sign? '"' = none from rfl, if_true]
    rw [quoted?_append h.quote h.escape]
    rfl

/-! ## Statements -/

/-- A text has these tokens, and whatever is behind it has its own. -/
def Lexes (cs : List Char) (ts : List Token) : Prop :=
  ∀ rest, tokens? (cs ++ rest) = (tokens? rest).map (ts ++ ·)

namespace Lexes

variable {cs more : List Char} {ts us : List Token}

theorem nil : Lexes [] [] := by
  intro rest
  simp

theorem append (h : Lexes cs ts) (hmore : Lexes more us) : Lexes (cs ++ more) (ts ++ us) := by
  intro rest
  rw [List.append_assoc, h, hmore, Option.map_map]
  simp [Function.comp_def, List.append_assoc]

theorem blank {c : Char} (hc : isBlank c = true) (h : Lexes cs ts) : Lexes (c :: cs) ts := by
  intro rest
  rw [List.cons_append, tokens?_blank hc, h]

theorem sign {c : Char} {t : Token} (hc : isBlank c = false) (ht : sign? c = some t)
    (h : Lexes cs ts) : Lexes (c :: cs) (t :: ts) := by
  intro rest
  have htoken : token? c (cs ++ rest) = some (t, cs ++ rest) := by simp only [token?, ht]
  rw [List.cons_append, tokens?_token hc htoken, h, Option.map_map]
  rfl

theorem arrow (h : Lexes cs ts) : Lexes ('-' :: '>' :: cs) (.arrow :: ts) := by
  intro rest
  have htoken : token? '-' ('>' :: (cs ++ rest)) = some (.arrow, cs ++ rest) := by
    simp only [token?, show sign? '-' = none from rfl]
    rfl
  rw [List.cons_append, List.cons_append, tokens?_token (by decide) htoken, h, Option.map_map]
  rfl

/-- The statements of a list have their tokens one after the other. -/
theorem flatten {statements : List (List Char)} {tokens : List (List Token)}
    (h : List.Forall₂ Lexes statements tokens) : Lexes statements.flatten tokens.flatten := by
  induction h with
  | nil => exact nil
  | cons head _ ih => exact append head ih

theorem map_indent {statements : List (List Char)} {tokens : List (List Token)}
    (h : List.Forall₂ Lexes statements tokens) :
    List.Forall₂ Lexes (statements.map indent) tokens :=
  List.forall₂_map_left_iff.mpr (h.imp fun _ _ hs => blank (by decide) hs)

end Lexes

/-- A text has these tokens in front of a character that ends words and numerals. -/
def LexesBefore (cs : List Char) (ts : List Token) : Prop :=
  ∀ ⦃d : Char⦄ ⦃more : List Char⦄ ⦃us : List Token⦄, isDelimiter d = true → Lexes (d :: more) us →
    Lexes (cs ++ d :: more) (ts ++ us)

namespace LexesBefore

variable {cs more : List Char} {ts us : List Token}

theorem quote {name : List Char} (h : Quotable name) :
    LexesBefore (Dot.quote name) [.id (String.ofList name)] := by
  intro d more us hd hus rest
  rw [List.append_assoc, List.cons_append, tokens?_quote h hd, ← List.cons_append, hus,
    Option.map_map]
  rfl

theorem keyword (k : Keyword) : LexesBefore k.text [.keyword k] := by
  intro d more us hd hus rest
  have htext : ∃ c word, k.text = c :: word ∧ isBlank c = false ∧ c ≠ '"' ∧ isLetter c = true ∧
      sign? c = none ∧ word.all isWordCharacter = true ∧ ofWord (c :: word) = .keyword k := by
    cases k <;> exact ⟨_, _, rfl, by decide⟩
  obtain ⟨c, word, hk, hc, hquote, hletter, hsign, hword, hofWord⟩ := htext
  have htoken : token? c (word ++ d :: (more ++ rest))
      = some (.keyword k, d :: (more ++ rest)) := by
    simp only [token?, hsign, if_neg hquote]
    rw [if_pos hletter, takeWhile_append_delimiter hword (not_isWordCharacter hd),
      dropWhile_append_delimiter hword (not_isWordCharacter hd), hofWord]
  rw [hk, List.append_assoc, List.cons_append, List.cons_append, tokens?_token hc htoken,
    ← List.cons_append, hus, Option.map_map]
  rfl

theorem blank {c : Char} (hc : isBlank c = true) (h : LexesBefore cs ts) :
    LexesBefore (c :: cs) ts :=
  fun _ _ _ hd hus => Lexes.blank hc (h hd hus)

theorem sign {c : Char} {t : Token} (hc : isBlank c = false) (ht : sign? c = some t)
    (h : LexesBefore cs ts) : LexesBefore (c :: cs) (t :: ts) :=
  fun _ _ _ hd hus => Lexes.sign hc ht (h hd hus)

theorem arrow (h : LexesBefore cs ts) : LexesBefore ('-' :: '>' :: cs) (.arrow :: ts) :=
  fun _ _ _ hd hus => Lexes.arrow (h hd hus)

/-- Texts follow each other if the second begins with a character that ends words. -/
theorem append {c : Char} (h : LexesBefore cs ts) (hc : isDelimiter c = true)
    (hmore : LexesBefore (c :: more) us) : LexesBefore (cs ++ c :: more) (ts ++ us) := by
  intro d rest vs hd hvs
  rw [List.append_assoc, List.append_assoc]
  exact h hc (hmore hd hvs)

end LexesBefore

/-- Attributes whose keys are different and whose keys and values are read back. -/
structure ReadableAttributes (attributes : Attributes) : Prop where
  quotable : ∀ a ∈ attributes, Quotable a.1.toList ∧ Quotable a.2.toList
  distinct : attributes.keys.Nodup

def assignmentTokens (attributes : Attributes) : List Token :=
  attributes.flatMap fun (key, value) => [.id key, .equals, .id value]

def bracketTokens (attributes : Attributes) : List Token :=
  if attributes = [] then [] else .leftBracket :: (assignmentTokens attributes ++ [.rightBracket])

theorem lexesBefore_assignment {key value : String} (hkey : Quotable key.toList)
    (hvalue : Quotable value.toList) :
    LexesBefore (assignment key value) [.id key, .equals, .id value] := by
  have hsign := LexesBefore.sign (c := '=') (by decide) rfl (LexesBefore.quote hvalue)
  have hall := (LexesBefore.quote hkey).append (by decide) hsign
  rw [String.ofList_toList, String.ofList_toList] at hall
  exact hall

theorem lexesBefore_assignments {attributes : Attributes}
    (h : ∀ a ∈ attributes, Quotable a.1.toList ∧ Quotable a.2.toList) (hne : attributes ≠ []) :
    LexesBefore ([' '].intercalate (attributes.map fun (key, value) => assignment key value))
      (assignmentTokens attributes) := by
  induction attributes with
  | nil => exact absurd rfl hne
  | cons a attributes ih =>
    obtain ⟨key, value⟩ := a
    obtain ⟨⟨hkey, hvalue⟩, hrest⟩ := List.forall_mem_cons.mp h
    have hown := lexesBefore_assignment hkey hvalue
    cases attributes with
    | nil =>
      rw [List.map_singleton, List.intercalate_singleton]
      exact hown
    | cons b attributes =>
      have hmore := LexesBefore.blank (c := ' ') (by decide) (ih hrest (List.cons_ne_nil _ _))
      rw [List.map_cons, List.map_cons, List.intercalate_cons_cons, List.append_assoc]
      exact hown.append (by decide) hmore

/-- A statement on a line of its own, with attributes at its end. -/
theorem lexes_line {cs : List Char} {ts : List Token} {attributes : Attributes}
    (hcs : LexesBefore cs ts) (h : ReadableAttributes attributes) :
    Lexes (line (cs ++ brackets attributes)) (ts ++ bracketTokens attributes) := by
  have hbreak : Lexes ['\n'] [] := Lexes.blank (by decide) Lexes.nil
  refine Lexes.blank (by decide) ?_
  unfold brackets bracketTokens
  split
  · rw [List.append_nil]
    exact hcs (by decide) hbreak
  · rename_i hne
    have hclose := Lexes.sign (c := ']') (by decide) rfl hbreak
    have hitems := lexesBefore_assignments h.quotable hne (by decide) hclose
    have hopen := Lexes.sign (c := '[') (by decide) rfl hitems
    have hall := hcs (by decide) (Lexes.blank (c := ' ') (by decide) hopen)
    simpa [List.append_assoc] using hall

theorem labelFirst_perm (attributes : Attributes) : (labelFirst attributes).Perm attributes := by
  have hsorted := List.mergeSort_perm (attributes.filter (·.1 ≠ "label"))
    fun a b => decide (a.1 ≤ b.1)
  refine (hsorted.append_left _).trans ?_
  have h := List.filter_append_perm (fun a : String × String => decide (a.1 = "label")) attributes
  simpa [decide_not] using h

theorem sorted_perm (attributes : Attributes) : (sorted attributes).Perm attributes :=
  List.mergeSort_perm attributes _

theorem ReadableAttributes.perm {a b : Attributes} (h : ReadableAttributes a) (hp : b.Perm a) :
    ReadableAttributes b where
  quotable x hx := h.quotable x (hp.mem_iff.mp hx)
  distinct := (hp.map Prod.fst).nodup_iff.mpr h.distinct

structure ReadableNode (n : Node) : Prop where
  id : Quotable n.id.toList
  attributes : ReadableAttributes n.attributes

/-- A colon in the end of an edge would set a port apart. -/
structure ReadableEdge (e : Edge) : Prop where
  tail : Quotable e.tail.toList
  tailPort : ':' ∉ e.tail.toList
  head : Quotable e.head.toList
  headPort : ':' ∉ e.head.toList
  attributes : ReadableAttributes e.attributes

inductive ReadableCluster : Cluster → Prop
  | intro {c : Cluster} (name : Quotable c.name.toList)
      (attributes : ReadableAttributes c.attributes) (nodes : ∀ n ∈ c.nodes, ReadableNode n)
      (edges : ∀ e ∈ c.edges, ReadableEdge e)
      (clusters : ∀ d ∈ c.clusters, ReadableCluster d) : ReadableCluster c

structure ReadableDiagram (d : Diagram) : Prop where
  root : ReadableCluster d.root
  nodeDefaults : ReadableAttributes d.nodeDefaults
  edgeDefaults : ReadableAttributes d.edgeDefaults

def nodeTokens (n : Node) : List Token := .id n.id :: bracketTokens (labelFirst n.attributes)

def edgeTokens (e : Edge) : List Token :=
  .id e.tail :: .arrow :: .id e.head :: bracketTokens (labelFirst e.attributes)

def defaultTokens (k : Keyword) (attributes : Attributes) : List (List Token) :=
  if attributes = [] then [] else [.keyword k :: bracketTokens (sorted attributes)]

def openingTokens (k : Keyword) (name : String) : List Token :=
  .keyword k :: ((if name = "" then [] else [.id name]) ++ [.leftBrace])

/-- The tokens of the statements of a cluster, behind its defaults. -/
def bodyTokens : Cluster → List (List Token)
  | ⟨_, _, nodes, edges, clusters⟩ =>
    nodes.map nodeTokens ++ clusterTokens clusters ++ edges.map edgeTokens
where
  clusterTokens : List Cluster → List (List Token)
    | [] => []
    | c :: cs =>
      (if c.name = "" then [.leftBrace] else openingTokens .subgraph c.name)
        :: (defaultTokens .graph c.attributes ++ bodyTokens c) ++ [[.rightBrace]]
      ++ clusterTokens cs

def diagramTokens (d : Diagram) : List Token :=
  openingTokens .digraph d.root.name
    ++ (defaultTokens .graph d.root.attributes ++ defaultTokens .node d.nodeDefaults
      ++ defaultTokens .edge d.edgeDefaults ++ bodyTokens d.root).flatten
    ++ [.rightBrace]

theorem lexes_nodeStatement {n : Node} (h : ReadableNode n) :
    Lexes (nodeStatement n) (nodeTokens n) := by
  have hid := LexesBefore.quote h.id
  rw [String.ofList_toList] at hid
  exact lexes_line hid (h.attributes.perm (labelFirst_perm n.attributes))

theorem lexes_edgeStatement {e : Edge} (h : ReadableEdge e) :
    Lexes (edgeStatement e) (edgeTokens e) := by
  have hhead := LexesBefore.blank (c := ' ') (by decide) (LexesBefore.quote h.head)
  have harrow := LexesBefore.blank (c := ' ') (by decide) (LexesBefore.arrow hhead)
  have hends := (LexesBefore.quote h.tail).append (by decide) harrow
  rw [String.ofList_toList, String.ofList_toList] at hends
  have hline := lexes_line hends (h.attributes.perm (labelFirst_perm e.attributes))
  rw [edgeStatement, quoteEnd_of_not_mem h.tailPort, quoteEnd_of_not_mem h.headPort]
  simpa [edgeTokens, List.append_assoc] using hline

theorem lexes_defaults (k : Keyword) {attributes : Attributes} (h : ReadableAttributes attributes) :
    List.Forall₂ Lexes (defaults (String.ofList k.text) attributes)
      (defaultTokens k attributes) := by
  unfold defaults defaultTokens
  split
  · exact .nil
  · rw [String.toList_ofList]
    exact .cons (lexes_line (.keyword k) (h.perm (sorted_perm attributes))) .nil

theorem lexes_opening (k : Keyword) {name : String} (h : Quotable name.toList) :
    Lexes (opening (String.ofList (k.text ++ [' '])) name) (openingTokens k name) := by
  have hbrace : Lexes ['\x7b', '\n'] [.leftBrace] :=
    Lexes.sign (by decide) rfl (Lexes.blank (by decide) Lexes.nil)
  unfold opening openingTokens
  rw [String.toList_ofList, List.append_assoc, List.append_assoc]
  refine LexesBefore.keyword k (by decide) (Lexes.blank (by decide) ?_)
  split
  · exact hbrace
  · have hname := LexesBefore.quote h (d := ' ') (by decide) (Lexes.blank (by decide) hbrace)
    rw [String.ofList_toList] at hname
    rw [List.append_assoc]
    exact hname

theorem lexes_closing : Lexes closing [.rightBrace] :=
  Lexes.sign (by decide) rfl (Lexes.blank (by decide) Lexes.nil)

theorem lexes_clusterStatements {cs : List Cluster} (h : ∀ c ∈ cs, ReadableCluster c)
    (ih : ∀ c ∈ cs, List.Forall₂ Lexes (body c) (bodyTokens c)) :
    List.Forall₂ Lexes (body.clusterStatements cs) (bodyTokens.clusterTokens cs) := by
  induction cs with
  | nil => exact .nil
  | cons c cs ihcs =>
    obtain ⟨name, attributes⟩ := h c List.mem_cons_self
    have hopening : Lexes (opening (if c.name = "" then "" else "subgraph ") c.name)
        (if c.name = "" then [.leftBrace] else openingTokens .subgraph c.name) := by
      split
      · rename_i hempty
        rw [hempty]
        exact Lexes.sign (by decide) rfl (Lexes.blank (by decide) Lexes.nil)
      · exact lexes_opening .subgraph name
    have hinner := List.rel_append (lexes_defaults .graph attributes) (ih c List.mem_cons_self)
    have hblock := List.rel_append (.cons hopening hinner) (.cons lexes_closing .nil)
    rw [body.clusterStatements, bodyTokens.clusterTokens]
    refine List.rel_append (Lexes.map_indent hblock) (ihcs ?_ ?_)
    · exact fun d hd => h d (List.mem_cons_of_mem c hd)
    · exact fun d hd => ih d (List.mem_cons_of_mem c hd)

theorem lexes_body {c : Cluster} (h : ReadableCluster c) :
    List.Forall₂ Lexes (body c) (bodyTokens c) := by
  induction h with
  | @intro c _ _ nodes edges clusters ih =>
    have hnodes : List.Forall₂ Lexes (c.nodes.map nodeStatement) (c.nodes.map nodeTokens) :=
      List.forall₂_map_left_iff.mpr (List.forall₂_map_right_iff.mpr
        (List.forall₂_same.mpr fun n hn => lexes_nodeStatement (nodes n hn)))
    have hedges : List.Forall₂ Lexes (c.edges.map edgeStatement) (c.edges.map edgeTokens) :=
      List.forall₂_map_left_iff.mpr (List.forall₂_map_right_iff.mpr
        (List.forall₂_same.mpr fun e he => lexes_edgeStatement (edges e he)))
    have hclusters := lexes_clusterStatements clusters ih
    cases c
    rw [body, bodyTokens]
    exact List.rel_append (List.rel_append hnodes hclusters) hedges

/-- **The tokens of a printed diagram.** -/
theorem tokens?_text {d : Diagram} (h : ReadableDiagram d) :
    tokens? (text d).toList = some (diagramTokens d) := by
  obtain ⟨name, attributes⟩ := h.root
  have hstatements := Lexes.flatten (List.rel_append (List.rel_append (List.rel_append
    (lexes_defaults .graph attributes) (lexes_defaults .node h.nodeDefaults))
    (lexes_defaults .edge h.edgeDefaults)) (lexes_body h.root))
  have hall := Lexes.append (Lexes.append (lexes_opening .digraph name) hstatements)
    lexes_closing
  have htext := hall []
  rw [tokens?_nil, Option.map_some, List.append_nil, List.append_nil] at htext
  rw [text, String.toList_ofList]
  exact htext

end ClassDiagram.Dot
