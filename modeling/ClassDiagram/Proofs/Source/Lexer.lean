import ClassDiagram.Proofs.Source.Named
import ClassDiagram.Source.Lexer

/-!
What the scan of a text takes and gives. `Scanned` lists what a round can do, with a lemma for each
kind of round (`scanned_of_round?`); a scan goes on with what is left (`scan_succ`). The names among
the tokens of a text are words (`isWord_of_tokens?`).
-/

namespace ClassDiagram.Source.Lexer

/-- What one round takes from the front of a text, and the tokens that it gives for it. -/
inductive Scanned (field : List Char → Bool) : List Char → List Token → List Char → Prop
  /-- Blanks, comments, line ends and changes of indentation. -/
  | layout {cs rest : List Char} {tokens : List Token} (hrest : rest <:+ cs)
      (h : ∀ t ∈ tokens, t = .indent ∨ t = .dedent ∨ t = .newline) : Scanned field cs tokens rest
  | word {c : Char} {cs : List Char} {t : Token} (hc : isWordStart c = true)
      (ht : word? (c :: cs.takeWhile Numeral.isWordChar) = some t) :
    Scanned field (c :: cs) [t] (cs.dropWhile Numeral.isWordChar)
  | string {p : StringPrefix} {quote : Char} {letters cs body rest : List Char} {literal : Literal}
      (hclose : closeQuote quote cs = some (body, rest))
      (hliteral : literal? field p body = some literal) :
    Scanned field (letters ++ quote :: cs) [.text literal] rest
  | number {cs rest : List Char} {imaginary : Bool} (h : Numeral.scan cs = some (imaginary, rest)) :
    Scanned field cs [.number imaginary] rest
  | symbol {cs rest : List Char} {symbol : String} (h : Token.scanSymbol cs = some (symbol, rest)) :
    Scanned field cs [.mark symbol] rest

variable {field : List Char → Bool} {fuel : Nat} {s : State} {cs : List Char} {ts : List Token}

/-! ## Indentation -/

theorem suffix_of_measure {column column' : Column} {joined : Nat} {rest : List Char}
    (h : measure column joined cs = some (column', rest)) : rest <:+ cs := by
  induction column, joined, cs using measure.induct with
  | case1 column joined cs ih | case2 column joined cs ih | case3 column joined cs ih =>
    rw [measure] at h
    exact (ih h).trans (List.suffix_cons _ _)
  | case4 column joined c cs ih =>
    rw [measure] at h
    exact (ih h).trans ⟨['\\', '\n'], rfl⟩
  | case5 column joined cs hcs =>
    rw [measure] at h
    · cases h
    · exact hcs
  | case6 column joined cs =>
    rw [measure] at h
    · cases h
      exact List.suffix_rfl
    all_goals assumption

/-- Indentation gives no other tokens than changes of it. -/
theorem layout_of_dedentTo {column : Column} {blocks blocks' : List Column}
    (h : indentTo.dedentTo column blocks = some (ts, blocks')) : ∀ t ∈ ts, t = .dedent := by
  induction blocks generalizing ts with
  | nil => cases h
  | cons top blocks ih =>
    rw [indentTo.dedentTo] at h
    split at h
    · obtain ⟨⟨inner, _⟩, hinner, h⟩ := Option.map_eq_some_iff.mp h
      cases h
      exact List.forall_mem_cons.mpr ⟨rfl, ih hinner⟩
    · split at h
      · cases h
        exact List.forall_mem_nil _
      · cases h

theorem layout_of_indentTo {column : Column} {blocks blocks' : List Column}
    (h : indentTo column blocks = some (ts, blocks')) :
    ∀ t ∈ ts, t = .indent ∨ t = .dedent ∨ t = .newline := by
  cases blocks with
  | nil => cases h
  | cons top blocks =>
    rw [indentTo] at h
    split at h
    · split at h
      · cases h
        exact List.forall_mem_nil _
      · cases h
    · split at h
      · split at h
        · cases h
          exact List.forall_mem_singleton.mpr (.inl rfl)
        · cases h
      · obtain ⟨⟨inner, _⟩, hinner, h⟩ := Option.map_eq_some_iff.mp h
        cases h
        refine List.forall_mem_cons.mpr ⟨.inr (.inl rfl), fun t ht => .inr (.inl ?_)⟩
        exact layout_of_dedentTo hinner t ht

/-! ## Rounds -/

theorem suffix_of_dropWhile {p : Char → Bool} {rest : List Char} (h : rest <:+ cs) :
    rest.dropWhile p <:+ cs :=
  (List.dropWhile_suffix p).trans h

/-- A round without tokens leaves an end of the text. -/
theorem scanned_of_suffix {rest : List Char} (h : rest <:+ cs) : Scanned field cs [] rest :=
  .layout h (List.forall_mem_nil _)

variable {r : Round}

theorem scanned_of_atLineStart? (h : atLineStart? s cs = some r) :
    Scanned field cs r.tokens r.rest := by
  obtain ⟨⟨column, inner⟩, hmeasure, h⟩ := Option.bind_eq_some_iff.mp h
  have hinner := suffix_of_measure hmeasure
  dsimp only at h
  split at h
  · cases h
    exact scanned_of_suffix (suffix_of_dropWhile ((List.suffix_cons _ _).trans hinner))
  · cases h
    exact scanned_of_suffix ((List.suffix_cons _ _).trans hinner)
  · split at h
    · cases h
      exact scanned_of_suffix hinner
    · obtain ⟨⟨tokens, blocks⟩, hindent, h⟩ := Option.bind_eq_some_iff.mp h
      cases h
      exact .layout hinner (layout_of_indentTo hindent)

/-- Whatever letters stand in front of the quote. -/
theorem scanned_of_string? {p : StringPrefix} {quote : Char} (letters : List Char)
    (h : string? field s p quote cs = some r) :
    Scanned field (letters ++ quote :: cs) r.tokens r.rest := by
  obtain ⟨⟨body, rest⟩, hclose, h⟩ := Option.bind_eq_some_iff.mp h
  obtain ⟨literal, hliteral, h⟩ := Option.bind_eq_some_iff.mp h
  cases h
  exact .string hclose hliteral

theorem scanned_of_wordOrString? {c : Char} (hc : isWordStart c = true)
    (h : wordOrString? field s c cs = some r) : Scanned field (c :: cs) r.tokens r.rest := by
  have hcut : c :: cs = (c :: cs.takeWhile Numeral.isWordChar)
      ++ cs.dropWhile Numeral.isWordChar :=
    congrArg (c :: ·) List.takeWhile_append_dropWhile.symm
  rw [wordOrString?] at h
  split at h
  case h_1 rest p hrest _ | h_2 rest p hrest _ =>
    rw [hcut, hrest]
    exact scanned_of_string? _ h
  case h_3 =>
    obtain ⟨t, ht, h⟩ := Option.bind_eq_some_iff.mp h
    cases h
    exact .word hc ht

theorem scanned_of_number? (h : number? s cs = some r) : Scanned field cs r.tokens r.rest := by
  obtain ⟨⟨imaginary, rest⟩, hscan, h⟩ := Option.bind_eq_some_iff.mp h
  cases h
  exact .number hscan

theorem scanned_of_symbol? (h : symbol? s cs = some r) : Scanned field cs r.tokens r.rest := by
  obtain ⟨⟨symbol, rest⟩, hsymbol, h⟩ := Option.bind_eq_some_iff.mp h
  obtain ⟨brackets, -, h⟩ := Option.bind_eq_some_iff.mp h
  cases h
  exact .symbol hsymbol

theorem scanned_lineEnd (field : List Char → Bool) (s : State) (rest : List Char) :
    Scanned field ('\n' :: rest) (lineEnd s rest).tokens rest := by
  refine .layout (List.suffix_cons _ _) fun t ht => .inr (.inr ?_)
  rw [lineEnd] at ht
  split at ht
  · exact List.mem_singleton.mp ht
  · cases ht

theorem scanned_of_withinLine? (h : withinLine? field s cs = some r) :
    Scanned field cs r.tokens r.rest := by
  unfold withinLine? at h
  split at h
  case h_1 => cases h
  case h_2 | h_3 | h_4 =>
    cases h
    exact scanned_of_suffix (List.suffix_cons _ _)
  case h_5 =>
    cases h
    exact scanned_of_suffix (suffix_of_dropWhile (List.suffix_cons _ _))
  case h_6 =>
    cases h
    exact scanned_lineEnd field s _
  case h_7 =>
    cases h
    exact scanned_of_suffix ⟨['\\', '\n'], rfl⟩
  case h_8 =>
    split at h
    · rename_i hc
      exact scanned_of_wordOrString? hc h
    · split at h
      · exact scanned_of_string? [] h
      · split at h
        · exact scanned_of_number? h
        · exact scanned_of_symbol? h

theorem scanned_of_round? (h : round? field s cs = some r) : Scanned field cs r.tokens r.rest := by
  rw [round?] at h
  split at h
  · exact scanned_of_atLineStart? h
  · exact scanned_of_withinLine? h

/-- A scan goes on behind each round, unless it is at the end of the text. -/
theorem scan_succ (h : scan field (fuel + 1) s cs = some ts) :
    ts = [] ∨ ∃ (r : Round) (more : List Token), Scanned field cs r.tokens r.rest ∧
      scan field fuel r.state r.rest = some more ∧ ts = r.tokens ++ more := by
  rw [scan] at h
  split at h
  · split at h
    · cases h
      exact .inl rfl
    · cases h
  · obtain ⟨r, hround, h⟩ := Option.bind_eq_some_iff.mp h
    obtain ⟨more, hmore, h⟩ := Option.bind_eq_some_iff.mp h
    cases h
    exact .inr ⟨r, more, scanned_of_round? hround, hmore, rfl⟩

/-! ## Names -/

theorem isWordChar_of_isWordStart {c : Char} (h : isWordStart c = true) :
    Numeral.isWordChar c = true := by
  simp only [isWordStart, Numeral.isWordChar, Char.isAlphanum, Bool.or_eq_true] at h ⊢
  exact h.imp_left (.imp_left .inl)

/-- A round that gives a name takes a word. -/
theorem Scanned.isWord {new : List Token} {rest : List Char} (h : Scanned field cs new rest)
    {w : String} (hw : .name w ∈ new) : IsWord w := by
  cases h with
  | layout _ h => rcases h _ hw with h | h | h <;> cases h
  | @word c cs t hc ht =>
    rw [word?] at ht
    split at ht
    · rw [← Option.some.inj ht, List.mem_singleton, Token.ofWord] at hw
      split at hw
      · cases hw
      · cases hw
        refine ⟨?_, fun d hd => ?_⟩
        · rw [Ne, String.ofList_eq_empty_iff]
          exact List.cons_ne_nil _ _
        · rw [String.toList_ofList] at hd
          rcases List.mem_cons.mp hd with rfl | hd
          · exact isWordChar_of_isWordStart hc
          · exact List.all_eq_true.mp List.all_takeWhile d hd
    · cases ht
  | string | number | symbol => cases List.mem_singleton.mp hw

/-- **The names among the tokens of a text are words.** -/
theorem isWord_of_scan (h : scan field fuel s cs = some ts) {w : String} (hw : .name w ∈ ts) :
    IsWord w := by
  induction fuel generalizing s cs ts with
  | zero => cases h
  | succ fuel ih =>
    rcases scan_succ h with rfl | ⟨r, more, hscanned, hmore, rfl⟩
    · cases hw
    · rcases List.mem_append.mp hw with hw | hw
      · exact hscanned.isWord hw
      · exact ih hmore hw

theorem isWord_of_tokens? (h : tokens? field cs = some ts) {w : String} (hw : .name w ∈ ts) :
    IsWord w :=
  isWord_of_scan h hw

end ClassDiagram.Source.Lexer
