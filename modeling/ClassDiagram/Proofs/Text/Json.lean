import Mathlib.Data.List.Forall2
import ClassDiagram.Text.Json

/-!
A reader of JSON texts of strings, arrays and objects, after RFC 8259: escapes and surrogate pairs,
blanks between tokens, and no comma behind a last item. What is written is read back.

* `character?` and `string?` read what stands between quotes; `tokens?` cuts a text into tokens;
* `read` and `next` put values together, with the brackets that are open on a stack;
* `character?_escapeChar`, `Lexes.textAt`, `read_tokens`: the round trip at each of these levels;
* `ofText?_text`: a written value is read back from its text.
-/

namespace ClassDiagram.Text.Json

open Quoted (hexDigits)

/-! ## Strings -/

def digit? (c : Char) : Option Nat :=
  if c.isDigit then some (c.toNat - '0'.toNat)
  else if 'a' ≤ c ∧ c ≤ 'f' then some (c.toNat - 'a'.toNat + 10)
  else if 'A' ≤ c ∧ c ≤ 'F' then some (c.toNat - 'A'.toNat + 10)
  else none

/-- The number that four digits stand for, and what is behind them. -/
def unit? : List Char → Option (Nat × List Char)
  | a :: b :: c :: d :: rest => do
    return ((((← digit? a) * 16 + (← digit? b)) * 16 + (← digit? c)) * 16 + (← digit? d), rest)
  | _ => none

/-- What a letter stands for behind a backslash. -/
def escaped? : Char → Option Char
  | '"' => some '"'
  | '\\' => some '\\'
  | '/' => some '/'
  | 'b' => some '\x08'
  | 'f' => some '\x0c'
  | 'n' => some '\n'
  | 'r' => some '\r'
  | 't' => some '\t'
  | _ => none

def isHighSurrogate (n : Nat) : Bool := 0xD800 ≤ n && n < 0xDC00

def isLowSurrogate (n : Nat) : Bool := 0xDC00 ≤ n && n < 0xE000

def ofSurrogates (high low : Nat) : Char :=
  Char.ofNat (0x10000 + (high - 0xD800) * 0x400 + (low - 0xDC00))

/-- The low surrogate at the front, and what is behind it. -/
def lowSurrogate? : List Char → Option (Nat × List Char)
  | '\\' :: 'u' :: cs => (unit? cs).filter fun (n, _) => isLowSurrogate n
  | _ => none

/-- The character that a code unit stands for, with the low surrogate behind a high one. -/
def ofUnit? (n : Nat) (cs : List Char) : Option (Char × List Char) :=
  if isHighSurrogate n then
    (lowSurrogate? cs).map fun (low, rest) => (ofSurrogates n low, rest)
  else if isLowSurrogate n then none
  else some (Char.ofNat n, cs)

/-- The first character of what stands between quotes, and what is behind it. -/
def character? : List Char → Option (Char × List Char)
  | '\\' :: 'u' :: cs => do
    let (n, rest) ← unit? cs
    ofUnit? n rest
  | '\\' :: c :: cs => (escaped? c).map fun e => (e, cs)
  | c :: cs => if c = '"' ∨ c = '\\' ∨ c < ' ' then none else some (c, cs)
  | [] => none

theorem unit?_length {cs rest : List Char} {n : Nat} (h : unit? cs = some (n, rest)) :
    rest.length < cs.length := by
  unfold unit? at h
  split at h
  · simp only [Option.bind_eq_bind, Option.bind_eq_some_iff, pure, Option.some.injEq,
      Prod.mk.injEq] at h
    obtain ⟨-, -, -, -, -, -, -, -, -, rfl⟩ := h
    simp only [List.length_cons]; omega
  · cases h

theorem lowSurrogate?_length {cs rest : List Char} {n : Nat}
    (h : lowSurrogate? cs = some (n, rest)) : rest.length < cs.length := by
  unfold lowSurrogate? at h
  split at h
  · have := unit?_length (Option.filter_eq_some_iff.mp h).1
    simp only [List.length_cons]; omega
  · cases h

theorem ofUnit?_length {n : Nat} {cs rest : List Char} {c : Char}
    (h : ofUnit? n cs = some (c, rest)) : rest.length ≤ cs.length := by
  unfold ofUnit? at h
  split at h
  · obtain ⟨⟨low, behind⟩, hlow, he⟩ := Option.map_eq_some_iff.mp h
    obtain rfl : behind = rest := congrArg Prod.snd he
    exact Nat.le_of_lt (lowSurrogate?_length hlow)
  · split at h
    · cases h
    · cases h
      exact Nat.le_refl _

theorem character?_length {cs rest : List Char} {c : Char}
    (h : character? cs = some (c, rest)) : rest.length < cs.length := by
  unfold character? at h
  split at h
  · obtain ⟨⟨n, behind⟩, hn, h⟩ := Option.bind_eq_some_iff.mp h
    have := unit?_length hn
    have := ofUnit?_length h
    simp only [List.length_cons]; omega
  · obtain ⟨e, -, he⟩ := Option.map_eq_some_iff.mp h
    cases he
    simp only [List.length_cons]; omega
  · split at h
    · cases h
    · cases h
      exact Nat.lt_succ_self _
  · cases h

/-- The characters up to the quote that ends a string, and what is behind that. -/
def string? (cs : List Char) : Option (List Char × List Char) :=
  match cs with
  | '"' :: rest => some ([], rest)
  | cs =>
    match _h : character? cs with
    | none => none
    | some (c, rest) => (string? rest).map fun (more, rest) => (c :: more, rest)
termination_by cs.length
decreasing_by exact character?_length _h

theorem string?_quote (rest : List Char) : string? ('"' :: rest) = some ([], rest) := by
  rw [string?]

theorem string?_character {cs rest : List Char} {c : Char} (h : character? cs = some (c, rest)) :
    string? cs = (string? rest).map fun (more, rest) => (c :: more, rest) := by
  rw [string?]
  · split
    · rename_i hnone
      rw [h] at hnone
      cases hnone
    · rename_i hsome
      rw [h] at hsome
      cases hsome
      rfl
  · rintro tail rfl
    cases h

theorem string?_length {cs text rest : List Char} (h : string? cs = some (text, rest)) :
    rest.length < cs.length := by
  fun_induction string? cs generalizing text with
  | case1 tail =>
    cases h
    exact Nat.lt_succ_self _
  | case2 => cases h
  | case3 cs _ c tail hc ih =>
    obtain ⟨⟨more, behind⟩, hmore, he⟩ := Option.map_eq_some_iff.mp h
    cases he
    exact Nat.lt_trans (ih hmore) (character?_length hc)

/-! ## Tokens -/

inductive Token
  | text (s : String)
  | leftBracket
  | rightBracket
  | leftBrace
  | rightBrace
  | comma
  | colon
  deriving DecidableEq, Repr

def sign? : Char → Option Token
  | '[' => some .leftBracket
  | ']' => some .rightBracket
  | '{' => some .leftBrace
  | '}' => some .rightBrace
  | ',' => some .comma
  | ':' => some .colon
  | _ => none

def isBlank (c : Char) : Bool := c = ' ' || c = '\t' || c = '\n' || c = '\r'

/-- The token that begins with a character, and what is behind it. -/
def token? (c : Char) (cs : List Char) : Option (Token × List Char) :=
  if c = '"' then (string? cs).map fun (text, rest) => (.text (String.ofList text), rest)
  else (sign? c).map (·, cs)

theorem token?_length {c : Char} {cs rest : List Char} {t : Token}
    (h : token? c cs = some (t, rest)) : rest.length ≤ cs.length := by
  unfold token? at h
  split at h
  · obtain ⟨⟨text, behind⟩, htext, he⟩ := Option.map_eq_some_iff.mp h
    cases he
    exact Nat.le_of_lt (string?_length htext)
  · obtain ⟨sign, -, he⟩ := Option.map_eq_some_iff.mp h
    cases he
    exact Nat.le_refl _

/-- The tokens of a text. -/
def tokens? : List Char → Option (List Token)
  | [] => some []
  | c :: cs =>
    if isBlank c then tokens? cs
    else
      match _h : token? c cs with
      | none => none
      | some (t, rest) => (tokens? rest).map (t :: ·)
termination_by cs => cs.length
decreasing_by
  · exact Nat.lt_succ_self _
  · exact Nat.lt_succ_of_le (token?_length _h)

theorem tokens?_nil : tokens? [] = some [] := by rw [tokens?]

theorem tokens?_blank {c : Char} (h : isBlank c = true) (cs : List Char) :
    tokens? (c :: cs) = tokens? cs := by
  rw [tokens?, if_pos h]

theorem tokens?_token {c : Char} {cs rest : List Char} {t : Token} (hc : isBlank c = false)
    (h : token? c cs = some (t, rest)) : tokens? (c :: cs) = (tokens? rest).map (t :: ·) := by
  rw [tokens?, if_neg (by simp [hc])]
  split
  · rename_i hnone
    rw [h] at hnone
    cases hnone
  · rename_i hsome
    rw [h] at hsome
    cases hsome
    rfl

/-! ## Values -/

/-- A bracket that is open, with what stands in it so far. -/
inductive Frame
  | items (done : List Json)
  /-- The value of a key is awaited. -/
  | fields (done : List (String × Json)) (key : String)

mutual

/-- Takes a value from the front of tokens. -/
def read (stack : List Frame) (ts : List Token) : Option Json :=
  match stack, ts with
  | stack, .text s :: ts => next stack (.string s) ts
  | stack, .leftBracket :: ts => read (.items [] :: stack) ts
  | .items [] :: stack, .rightBracket :: ts => next stack (.array []) ts
  | stack, .leftBrace :: ts => readField [] stack ts
  | _, _ => none

/-- Takes a key, and the value behind it. -/
def readField (done : List (String × Json)) (stack : List Frame) (ts : List Token) : Option Json :=
  match done, ts with
  | done, .text key :: .colon :: ts => read (.fields done key :: stack) ts
  | [], .rightBrace :: ts => next stack (.object []) ts
  | _, _ => none

/-- Goes on behind a value. -/
def next (stack : List Frame) (v : Json) (ts : List Token) : Option Json :=
  match stack, ts with
  | [], [] => some v
  | .items done :: stack, .comma :: ts => read (.items (done ++ [v]) :: stack) ts
  | .items done :: stack, .rightBracket :: ts => next stack (.array (done ++ [v])) ts
  | .fields done key :: stack, .comma :: ts => readField (done ++ [(key, v)]) stack ts
  | .fields done key :: stack, .rightBrace :: ts => next stack (.object (done ++ [(key, v)])) ts
  | _, _ => none

end

/-- The value that a text is of. -/
def ofText? (text : String) : Option Json := tokens? text.toList >>= read []

/-! ## Characters that are read back -/

theorem digit?_digitChar : ∀ n < 16, digit? (Nat.digitChar n) = some n := by decide

theorem unit?_hexDigits {n : Nat} (h : n < 0x10000) (rest : List Char) :
    unit? (hexDigits 4 n ++ rest) = some (n, rest) := by
  have hdigit : ∀ m, digit? (Nat.digitChar (m % 16)) = some (m % 16) :=
    fun m => digit?_digitChar _ (Nat.mod_lt m (by decide))
  have hvalue : ((n / 16 / 16 / 16 % 16 * 16 + n / 16 / 16 % 16) * 16 + n / 16 % 16) * 16 + n % 16
      = n := by omega
  simp [hexDigits, unit?, hdigit, hvalue]

theorem ofSurrogates_div_mod {c : Char} (h : 0x10000 ≤ c.toNat) :
    ofSurrogates (0xD800 + (c.toNat - 0x10000) / 0x400) (0xDC00 + (c.toNat - 0x10000) % 0x400)
      = c := by
  have hvalue : 0x10000 + (0xD800 + (c.toNat - 0x10000) / 0x400 - 0xD800) * 0x400 +
      (0xDC00 + (c.toNat - 0x10000) % 0x400 - 0xDC00) = c.toNat := by omega
  rw [ofSurrogates, hvalue, Char.ofNat_toNat]

theorem character?_unit {n : Nat} (h : n < 0x10000) (rest : List Char) :
    character? (unit n ++ rest) = ofUnit? n rest := by
  simp [unit, character?, unit?_hexDigits h]

theorem lowSurrogate?_unit {n : Nat} (h : isLowSurrogate n = true) (rest : List Char) :
    lowSurrogate? (unit n ++ rest) = some (n, rest) := by
  have hbasic : n < 0x10000 := by
    simp only [isLowSurrogate, Bool.and_eq_true, decide_eq_true_eq] at h
    omega
  simp [unit, lowSurrogate?, unit?_hexDigits hbasic, h]

/-- **A character is read back from its written form.** -/
theorem character?_escapeChar (c : Char) (rest : List Char) :
    character? (escapeChar c ++ rest) = some (c, rest) := by
  have hvalid : c.toNat < 0xD800 ∨ 0xDFFF < c.toNat ∧ c.toNat < 0x110000 := c.valid
  by_cases hshort : c ∈ ['"', '\\', '\n', '\r', '\t', '\x0c', '\x08']
  · simp only [List.mem_cons, List.not_mem_nil, or_false] at hshort
    rcases hshort with rfl | rfl | rfl | rfl | rfl | rfl | rfl <;> rfl
  simp only [List.mem_cons, List.not_mem_nil, or_false, not_or] at hshort
  obtain ⟨hquote, hbackslash, hn, hr, ht, hf, hb⟩ := hshort
  rw [escapeChar, if_neg (by simp [hquote, hbackslash]), if_neg hn, if_neg hr, if_neg ht,
    if_neg hf, if_neg hb]
  by_cases hplain : ' ' ≤ c ∧ c ≤ '~'
  · have hcontrol : ¬ c < ' ' := fun h => absurd hplain.1 (Char.not_le.mpr h)
    rw [if_pos hplain, List.singleton_append, character?]
    · simp [hquote, hbackslash, hcontrol]
    · exact fun _ h _ => hbackslash h
    · exact fun _ _ h _ => hbackslash h
  rw [if_neg hplain]
  by_cases hbasic : c.toNat < 0x10000
  · have hhigh : isHighSurrogate c.toNat = false := by simp [isHighSurrogate]; omega
    have hlow : isLowSurrogate c.toNat = false := by simp [isLowSurrogate]; omega
    rw [if_pos hbasic, character?_unit hbasic, ofUnit?, hhigh, hlow, Char.ofNat_toNat]
    rfl
  · -- a pair of surrogates
    have hhigh : isHighSurrogate (0xD800 + (c.toNat - 0x10000) / 0x400) = true := by
      simp [isHighSurrogate]; omega
    have hlow : isLowSurrogate (0xDC00 + (c.toNat - 0x10000) % 0x400) = true := by
      simp [isLowSurrogate]; omega
    rw [if_neg hbasic, List.append_assoc, character?_unit (by omega), ofUnit?, if_pos hhigh,
      lowSurrogate?_unit hlow]
    simp only [Option.map_some, ofSurrogates_div_mod (Nat.le_of_not_lt hbasic)]

theorem string?_flatMap (cs rest : List Char) :
    string? (cs.flatMap escapeChar ++ '"' :: rest) = some (cs, rest) := by
  induction cs with
  | nil => exact string?_quote rest
  | cons c cs ih =>
    rw [List.flatMap_cons, List.append_assoc, string?_character (character?_escapeChar c _), ih]
    rfl

/-! ## Texts with known tokens -/

/-- A text has these tokens, and whatever is behind it has its own. -/
def Lexes (s : String) (ts : List Token) : Prop :=
  ∀ rest, tokens? (s.toList ++ rest) = (tokens? rest).map (ts ++ ·)

namespace Lexes

variable {s more : String} {ts us : List Token}

theorem append (h : Lexes s ts) (hmore : Lexes more us) : Lexes (s ++ more) (ts ++ us) := by
  intro rest
  rw [String.toList_append, List.append_assoc, h, hmore, Option.map_map]
  simp [Function.comp_def, List.append_assoc]

theorem blanks (h : s.toList.all isBlank = true) : Lexes s [] := by
  intro rest
  generalize s.toList = cs at h
  induction cs with
  | nil => simp
  | cons c cs ih =>
    rw [List.all_cons, Bool.and_eq_true] at h
    rw [List.cons_append, tokens?_blank h.1, ih h.2]

theorem sign {c : Char} {t : Token} (hquote : c ≠ '"') (hc : isBlank c = false)
    (ht : sign? c = some t) : Lexes (String.singleton c) [t] := by
  intro rest
  have htoken : token? c rest = some (t, rest) := by simp [token?, hquote, ht]
  rw [String.toList_singleton, List.singleton_append, tokens?_token hc htoken]
  rfl

theorem quote (s : String) : Lexes (Json.quote s) [.text s] := by
  intro rest
  have htoken : token? '"' (s.toList.flatMap escapeChar ++ '"' :: rest) =
      some (.text s, rest) := by
    simp [token?, string?_flatMap]
  rw [Json.quote, String.toList_ofList, List.cons_append, List.append_assoc, List.singleton_append,
    tokens?_token (by decide) htoken]
  rfl

/-- Items that are parted by commas. -/
theorem intercalate {texts : List String} {tokens : List (List Token)} {comma : String}
    (hcomma : Lexes comma [.comma]) (h : List.Forall₂ Lexes texts tokens) :
    Lexes (comma.intercalate texts) (List.intercalate [.comma] tokens) := by
  induction h with
  | nil => exact blanks rfl
  | @cons s ts texts tokens hs hrest ih =>
    cases hrest with
    | nil => simpa [List.intercalate] using hs
    | cons hmore hrest =>
      rw [String.intercalate_cons_cons, List.intercalate_cons_cons]
      exact (hs.append hcomma).append ih

end Lexes

/-! ## The tokens of a value -/

def tokens : Json → List Token
  | string s => [.text s]
  | array items => .leftBracket :: List.intercalate [.comma] (itemTokens items) ++ [.rightBracket]
  | object fields => .leftBrace :: List.intercalate [.comma] (fieldTokens fields) ++ [.rightBrace]
where
  itemTokens : List Json → List (List Token)
    | [] => []
    | item :: items => tokens item :: itemTokens items
  fieldTokens : List (String × Json) → List (List Token)
    | [] => []
    | (key, value) :: fields => (.text key :: .colon :: tokens value) :: fieldTokens fields

theorem Lexes.block {opening closing : String} {t u : Token} {level : Nat} {texts : List String}
    {ts : List (List Token)} (ht : Lexes opening [t]) (hu : Lexes closing [u])
    (h : List.Forall₂ Lexes texts ts) :
    Lexes (block opening closing level texts) (t :: List.intercalate [.comma] ts ++ [u]) := by
  have hmargin : ∀ level, Lexes (margin level) [] :=
    fun level => .blanks (by simp [margin, isBlank])
  have hcomma : Lexes ",\n" [.comma] :=
    .append (.sign (c := ',') (by decide) (by decide) rfl) (.blanks (s := "\n") (by decide))
  have hbreak : Lexes "\n" [] := .blanks (by decide)
  rw [Json.block]
  split
  · rename_i hnil
    subst hnil
    cases h
    exact ht.append hu
  · have hlines : List.Forall₂ Lexes (texts.map (margin (level + 1) ++ ·)) ts :=
      List.forall₂_map_left_iff.mpr (h.imp fun _ _ hs => (hmargin _).append hs)
    simpa using ((((ht.append hbreak).append (.intercalate hcomma hlines)).append hbreak).append
      (hmargin level)).append hu

/-- **The text of a value has its tokens.** -/
theorem Lexes.textAt (level : Nat) (v : Json) : Lexes (textAt level v) (tokens v) := by
  induction level, v using textAt.induct
    (motive_1 := fun level items =>
      List.Forall₂ Lexes (textAt.itemTexts level items) (tokens.itemTokens items))
    (motive_3 := fun level fields =>
      List.Forall₂ Lexes (textAt.fieldTexts level fields) (tokens.fieldTokens fields)) with
  | case1 level s =>
    rw [Json.textAt, tokens]
    exact .quote s
  | case2 level items ih =>
    rw [Json.textAt, tokens]
    exact .block (.sign (c := '[') (by decide) (by decide) rfl)
      (.sign (c := ']') (by decide) (by decide) rfl) ih
  | case3 level fields ih =>
    rw [Json.textAt, tokens]
    exact .block (.sign (c := '{') (by decide) (by decide) rfl)
      (.sign (c := '}') (by decide) (by decide) rfl) ih
  | case4 level | case6 level => exact .nil
  | case5 level item items ihitem ihitems => exact .cons ihitem ihitems
  | case7 level key value fields ihvalue ihfields =>
    have hcolon : Lexes ": " [.colon] :=
      .append (.sign (c := ':') (by decide) (by decide) rfl) (.blanks (s := " ") (by decide))
    exact .cons (((Lexes.quote key).append hcolon).append ihvalue) ihfields

/-! ## Values that are read back -/

/-- **A value is read from its tokens**, whatever brackets are open around it. -/
theorem read_tokens (v : Json) (stack : List Frame) (ts : List Token) :
    read stack (tokens v ++ ts) = next stack v ts := by
  -- items and fields go behind those that are read already, up to the bracket that closes them
  induction v using tokens.induct
    (motive_1 := fun items => ∀ done stack ts, items ≠ [] →
      read (.items done :: stack) (List.intercalate [.comma] (tokens.itemTokens items)
        ++ .rightBracket :: ts) = next stack (.array (done ++ items)) ts)
    (motive_3 := fun fields => ∀ done stack ts, fields ≠ [] →
      readField done stack (List.intercalate [.comma] (tokens.fieldTokens fields)
        ++ .rightBrace :: ts) = next stack (.object (done ++ fields)) ts)
    generalizing stack ts with
  | case1 s => rw [tokens, List.singleton_append, read]
  | case2 items ih =>
    cases items with
    | nil => rfl
    | cons item items => simpa [tokens, read] using ih [] stack ts (by simp)
  | case3 fields ih =>
    cases fields with
    | nil => rfl
    | cons field fields => simpa [tokens, read] using ih [] stack ts (by simp)
  | case4 | case6 => contradiction
  | case5 item items ihitem ihitems done stack ts =>
    cases items with
    | nil => simp [tokens.itemTokens, ihitem, next]
    | cons more items =>
      have hmore := ihitems (done ++ [item]) stack ts (by simp)
      simp only [tokens.itemTokens, List.intercalate_cons_cons, List.append_assoc] at hmore ⊢
      rw [ihitem, List.singleton_append, next, hmore]
      simp
  | case7 key value fields ihvalue ihfields done stack ts =>
    cases fields with
    | nil => simp [tokens.fieldTokens, readField, ihvalue, next]
    | cons more fields =>
      have hmore := ihfields (done ++ [(key, value)]) stack ts (by simp)
      simp only [tokens.fieldTokens, List.intercalate_cons_cons, List.append_assoc] at hmore ⊢
      rw [List.cons_append, List.cons_append, readField, ihvalue, List.singleton_append, next,
        hmore]
      simp

/-- **What is written is read back.** -/
theorem ofText?_text (v : Json) : ofText? v.text = some v := by
  have htokens : tokens? v.text.toList = some (tokens v) := by
    simpa [text, tokens?_nil] using Lexes.textAt 0 v []
  rw [ofText?, htokens]
  simpa [next] using read_tokens v [] []

end ClassDiagram.Text.Json
