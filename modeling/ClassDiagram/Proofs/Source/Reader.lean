import ClassDiagram.Source.Reader

/-!
What readers give. A reader that starts from tokens with an invariant gives values with a property
and leaves tokens with the invariant (`Reader.Keeps`); one lemma for each way to build a reader.
The invariant only has to hold of the tokens that are left when one is taken.
-/

namespace ClassDiagram.Source.Reader

variable {α β : Type} {I : List Token → Prop} {P : α → Prop} {Q : β → Prop}

/-- The values of a reader have a property, and the tokens that it leaves keep an invariant. -/
def Keeps (I : List Token → Prop) (P : α → Prop) (r : Reader α) : Prop :=
  ∀ ⦃ts a rest⦄, I ts → r ts = some (a, rest) → P a ∧ I rest

/-- Nothing is said of the values. -/
abbrev Passes (I : List Token → Prop) (r : Reader α) : Prop := Keeps I (fun _ => True) r

theorem Keeps.mono {P' : α → Prop} {r : Reader α} (h : Keeps I P r) (hP : ∀ a, P a → P' a) :
    Keeps I P' r := fun _ _ _ hts hr => (h hts hr).imp_left (hP _)

theorem Keeps.passes {r : Reader α} (h : Keeps I P r) : Passes I r := h.mono fun _ _ => trivial

/-! ## Sequences and choices -/

theorem keeps_pure {a : α} (h : P a) : Keeps I P (pure a : Reader α) := by
  rintro ts b rest hts ⟨⟩
  exact ⟨h, hts⟩

theorem keeps_fail : Keeps I P (fail : Reader α) := fun _ _ _ _ h => nomatch h

theorem Keeps.bind {r : Reader α} {f : α → Reader β} (h : Keeps I P r)
    (hf : ∀ a, P a → Keeps I Q (f a)) : Keeps I Q (r >>= f) := by
  intro ts b rest hts hr
  obtain ⟨⟨a, mid⟩, ha, hb⟩ := Option.bind_eq_some_iff.mp hr
  obtain ⟨hpa, hmid⟩ := h hts ha
  exact hf a hpa hmid hb

/-- The first value does not matter. -/
theorem Keeps.andThen {r : Reader α} {f : α → Reader β} (h : Passes I r)
    (hf : ∀ a, Keeps I Q (f a)) : Keeps I Q (r >>= f) := h.bind fun a _ => hf a

theorem Keeps.ite {condition : Prop} [Decidable condition] {r r' : Reader α}
    (h : Keeps I P r) (h' : Keeps I P r') : Keeps I P (if condition then r else r') := by
  split
  · exact h
  · exact h'

theorem Keeps.map {r : Reader α} {f : α → β} (h : Keeps I P r) (hf : ∀ a, P a → Q (f a)) :
    Keeps I Q (f <$> r) := by
  intro ts b rest hts hr
  obtain ⟨⟨a, mid⟩, ha, hb⟩ := Option.bind_eq_some_iff.mp hr
  cases hb
  exact (h hts ha).imp_left (hf a)

theorem Keeps.seqRight {r : Reader β} {r' : Reader α} (h : Keeps I Q r) (h' : Keeps I P r') :
    Keeps I P (r *> r') :=
  h.bind fun _ _ => h'

theorem Keeps.orElse {r r' : Reader α} (h : Keeps I P r) (h' : Keeps I P r') :
    Keeps I P (r <|> r') := by
  intro ts a rest hts hr
  have hr : (r ts <|> r' ts) = some (a, rest) := hr
  cases hfirst : r ts with
  | some found =>
    rw [hfirst] at hr
    cases hr
    exact h hts hfirst
  | none =>
    rw [hfirst] at hr
    exact h' hts hr

theorem keeps_ahead : Keeps I I ahead := by
  rintro ts a rest hts ⟨⟩
  exact ⟨hts, hts⟩

theorem keeps_require (condition : Bool) :
    Keeps I (fun _ => condition = true) (require condition) := by
  cases condition with
  | true => exact keeps_pure rfl
  | false => exact keeps_fail

theorem Keeps.perhaps {r : Reader α} (h : Keeps I P r) :
    Keeps I (fun found => ∀ a ∈ found, P a) (perhaps r) := by
  intro ts found rest hts hr
  rw [Reader.perhaps] at hr
  split at hr
  · rename_i a left hfirst
    cases hr
    obtain ⟨ha, hleft⟩ := h hts hfirst
    exact ⟨fun b hb => Option.some.inj hb ▸ ha, hleft⟩
  · cases hr
    exact ⟨fun _ hb => (nomatch hb), hts⟩

/-! ## Single tokens -/

section Tokens

variable (htail : ∀ {t : Token} {ts : List Token}, I (t :: ts) → I ts)
include htail

theorem passes_token (t : Token) : Passes I (token t) := by
  intro ts a rest hts hr
  cases ts with
  | nil => cases hr
  | cons u ts =>
    rw [token] at hr
    split at hr
    · cases hr
      exact ⟨trivial, htail hts⟩
    · cases hr

theorem passes_mark (symbol : String) : Passes I (mark symbol) := passes_token htail _

theorem passes_keyword (word : String) : Passes I (keyword word) := passes_token htail _

theorem passes_oneOf (symbols : List String) : Passes I (oneOf symbols) := by
  intro ts a rest hts hr
  unfold oneOf at hr
  split at hr
  · split at hr
    · cases hr
      exact ⟨trivial, htail hts⟩
    · cases hr
  · cases hr

theorem passes_accept (t : Token) : Passes I (accept t) :=
  (passes_token htail t).perhaps.bind fun _ _ => keeps_pure trivial

theorem keeps_identifier {W : String → Prop}
    (hname : ∀ {w : String} {ts : List Token}, I (.name w :: ts) → W (Text.Normal.normalize w)) :
    Keeps I W identifier := by
  intro ts a rest hts hr
  unfold identifier at hr
  split at hr
  · cases hr
    exact ⟨hname hts, htail hts⟩
  · cases hr

end Tokens

theorem passes_nextIs (t : Token) : Passes I (nextIs t) := by
  rintro ts a rest hts ⟨⟩
  exact ⟨trivial, hts⟩

theorem passes_nextIsMark (symbol : String) : Passes I (nextIsMark symbol) := passes_nextIs _

theorem passes_nextIsKeyword (word : String) : Passes I (nextIsKeyword word) := passes_nextIs _

theorem passes_notMark (symbol : String) : Passes I (notMark symbol) :=
  (passes_nextIsMark symbol).bind fun _ _ => (keeps_require _).passes

/-! ## Repetitions -/

theorem Keeps.collect {r : Reader α} (h : Keeps I P r) {rounds ts left : List Token}
    {as : List α} (hts : I ts) (hr : collect r rounds ts = (as, left)) :
    (∀ a ∈ as, P a) ∧ I left := by
  induction rounds generalizing ts as left with
  | nil =>
    cases hr
    exact ⟨List.forall_mem_nil _, hts⟩
  | cons t rounds ih =>
    rw [Reader.collect] at hr
    split at hr
    · cases hr
      exact ⟨List.forall_mem_nil _, hts⟩
    · rename_i a rest hfirst
      cases hr
      obtain ⟨ha, hrest⟩ := h hts hfirst
      obtain ⟨hmore, hleft⟩ := ih hrest rfl
      exact ⟨List.forall_mem_cons.mpr ⟨ha, hmore⟩, hleft⟩

theorem Keeps.many {r : Reader α} (h : Keeps I P r) :
    Keeps I (fun as => ∀ a ∈ as, P a) (many r) := by
  intro ts as rest hts hr
  exact h.collect hts (Option.some.inj hr)

theorem Keeps.many1 {r : Reader α} (h : Keeps I P r) :
    Keeps I (fun as => ∀ a ∈ as, P a) (many1 r) :=
  h.bind fun _ ha => h.many.bind fun _ has => keeps_pure (List.forall_mem_cons.mpr ⟨ha, has⟩)

/-- Repeated, a reader that takes one token for each value takes one for each of its values. -/
theorem eq_of_many1 {r : Reader α} {f : α → Token}
    (hr : ∀ ts a rest, r ts = some (a, rest) → ts = f a :: rest) {ts rest : List Token}
    {as : List α} (h : many1 r ts = some (as, rest)) : ts = as.map f ++ rest := by
  have hcollect : ∀ rounds ts,
      ts = (collect r rounds ts).1.map f ++ (collect r rounds ts).2 := by
    intro rounds
    induction rounds with
    | nil => exact fun _ => rfl
    | cons t rounds ih =>
      intro ts
      rw [collect]
      split
      · rfl
      · rename_i a next hfirst
        exact (hr _ _ _ hfirst).trans (congrArg (f a :: ·) (ih next))
  obtain ⟨⟨first, next⟩, hfirst, hr'⟩ := Option.bind_eq_some_iff.mp h
  cases hr'
  exact (hr _ _ _ hfirst).trans (congrArg (f first :: ·) (hcollect next next))

theorem Keeps.extend {step : α → Reader α} (hstep : ∀ a, P a → Keeps I P (step a)) {a : α}
    (ha : P a) : Keeps I P (extend step a) := by
  have hrounds : ∀ rounds a, P a → Keeps I P (extendFor step rounds a) := by
    intro rounds
    induction rounds with
    | nil => exact fun a ha => keeps_pure ha
    | cons t rounds ih =>
      intro a ha ts b rest hts hr
      simp only [extendFor] at hr
      split at hr
      · cases hr
        exact ⟨ha, hts⟩
      · rename_i c mid hfirst
        obtain ⟨hc, hmid⟩ := hstep a ha hts hfirst
        exact ih c hc hmid hr
  exact fun ts b rest hts hr => hrounds ts a ha hts hr

theorem Keeps.leftGrouped {operator : Reader β} {operand : Reader α} {combine : α → α → α}
    (hoperator : Passes I operator) (h : Keeps I P operand)
    (hcombine : ∀ a b, P a → P b → P (combine a b)) :
    Keeps I P (leftGrouped operator operand combine) := by
  refine h.bind fun first hfirst => (hoperator.seqRight h).many.bind fun more hmore => keeps_pure ?_
  induction more generalizing first with
  | nil => exact hfirst
  | cons a more ih =>
    obtain ⟨ha, hmore⟩ := List.forall_mem_cons.mp hmore
    exact ih (combine first a) (hcombine first a hfirst ha) hmore

section Separated

variable (htail : ∀ {t : Token} {ts : List Token}, I (t :: ts) → I ts)
include htail

theorem Keeps.separated {r : Reader α} (symbol : String) (h : Keeps I P r) :
    Keeps I (fun as => ∀ a ∈ as, P a) (separated symbol r) :=
  h.bind fun _ ha => ((passes_mark htail symbol).seqRight h).many.bind fun _ has =>
    keeps_pure (List.forall_mem_cons.mpr ⟨ha, has⟩)

theorem Keeps.commaList {r : Reader α} (h : Keeps I P r) :
    Keeps I (fun found => ∀ a ∈ found.1, P a) (commaList r) :=
  (h.separated htail ",").bind fun _ has => (passes_accept htail _).bind fun _ _ => keeps_pure has

end Separated

end ClassDiagram.Source.Reader
