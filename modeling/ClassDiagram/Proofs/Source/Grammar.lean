import ClassDiagram.Proofs.Source.Named
import ClassDiagram.Proofs.Source.Reader
import ClassDiagram.Source.Expr.Grammar

/-!
What the grammar of expressions keeps. If an invariant of the tokens gives a property of the
identifiers and of the string literals among them, and the property of expressions goes from their
parts to the whole (`Closed`), then all expressions that are read have it (`keeps_read`). There is
one lemma for each rule; the rules are tied together by induction on the depth.
-/

namespace ClassDiagram.Source.Expr.Grammar

open Reader

/-- An invariant of tokens with a property of identifiers and one of expressions that reading
keeps. -/
structure Closed (I : List Token → Prop) (W : String → Prop) (E : Expr → Prop) : Prop where
  tail {t : Token} {ts : List Token} : I (t :: ts) → I ts
  word {written : String} {ts : List Token} :
    I (.name written :: ts) → W (Text.Normal.normalize written)
  joined {literals : List Literal} {ts : List Token} {e : Expr} :
    I (literals.map .text ++ ts) → Grammar.joined literals = some e → E e
  name {id : String} : W id → E (name id)
  literal : E literal
  member {value : Expr} {attr : String} : E value → W attr → E (member value attr)
  subscript {value index : Expr} : E value → E index → E (subscript value index)
  tuple {items : List Expr} : (∀ item ∈ items, E item) → E (tuple items)
  list {items : List Expr} : (∀ item ∈ items, E item) → E (list items)
  starred {value : Expr} : E value → E (Expr.starred value)
  call {function : Expr} : E function → E (call function)
  union {left right : Expr} : E left → E right → E (union left right)
  other : E other

/-! ## Parameters in groups -/

/-- The parameters in an item of a list of them. -/
def ParameterItem.parameters : ParameterItem → List Parameter
  | plain p _ | doubleStar p => [p]
  | slash => []
  | star p => p.toList

theorem Parameters.mem_all {ps : Parameters} {p : Parameter} : p ∈ ps.all ↔
    p ∈ ps.positionalOnly ∨ p ∈ ps.positional ∨ p ∈ ps.variadic ∨ p ∈ ps.keywordOnly ∨
      p ∈ ps.keywordVariadic := by
  simp only [Parameters.all, List.mem_append, Option.mem_toList, or_assoc, Option.mem_def]

theorem mem_all_of_keywordPart {ps ps' : Parameters} {items : List ParameterItem} {p : Parameter}
    (h : ParameterItem.keywordPart ps items = some ps') (hp : p ∈ ps'.all) :
    p ∈ ps.all ∨ p ∈ items.flatMap ParameterItem.parameters := by
  fun_induction ParameterItem.keywordPart ps items with
  | case1 ps => grind
  | case2 ps q d rest ih => grind [Parameters.mem_all, ParameterItem.parameters]
  | case3 ps q => grind [Parameters.mem_all, ParameterItem.parameters]
  | case4 => cases h

/-- The parameters in groups are those of the items. -/
theorem mem_all_of_positionalPart {ps ps' : Parameters} {slashed defaulted : Bool}
    {items : List ParameterItem} {p : Parameter}
    (h : ParameterItem.positionalPart ps slashed defaulted items = some ps') (hp : p ∈ ps'.all) :
    p ∈ ps.all ∨ p ∈ items.flatMap ParameterItem.parameters := by
  fun_induction ParameterItem.positionalPart ps slashed defaulted items with
  | case1 => grind
  | case3 ps slashed q d rest hd ih => grind [Parameters.mem_all, ParameterItem.parameters]
  | case5 ps slashed defaulted rest hd ih => grind [Parameters.mem_all, ParameterItem.parameters]
  | case6 ps slashed defaulted q rest =>
    have hpart := mem_all_of_keywordPart h hp
    grind [Parameters.mem_all, ParameterItem.parameters]
  | case7 ps slashed defaulted q d rest =>
    exact (mem_all_of_keywordPart h hp).imp_right fun h => h
  | case9 ps slashed defaulted q => grind [Parameters.mem_all, ParameterItem.parameters]
  | _ => cases h

/-! ## Rules -/

section Rules

variable {I : List Token → Prop} {W : String → Prop} {E : Expr → Prop}
variable (hc : Closed I W E)
include hc

theorem Closed.drop {front ts : List Token} (h : I (front ++ ts)) : I ts := by
  induction front with
  | nil => exact h
  | cons t front ih => exact ih (hc.tail h)

theorem Closed.identifier : Keeps I W Reader.identifier := keeps_identifier hc.tail hc.word

theorem Closed.grouped {found : List Expr × Bool} (h : ∀ e ∈ found.1, E e) :
    E (Grammar.grouped found) := by
  unfold Grammar.grouped
  split
  · exact h _ List.mem_cons_self
  · exact hc.tuple h

variable {self : Level → Reader Expr} (hself : ∀ level, Keeps I E (self level))
include hself

/-! ## Lists of expressions -/

theorem keeps_named : Keeps I E (named self) := by
  refine .andThen keeps_ahead.passes fun _ => .ite ?_ ?_
  · exact .andThen hc.identifier.passes fun _ => .andThen (passes_mark hc.tail _) fun _ =>
      .andThen (hself _).passes fun _ => keeps_pure hc.other
  · exact (hself _).bind fun e he => .andThen (passes_notMark _) fun _ => keeps_pure he

theorem keeps_starred (level : Level) : Keeps I E (starred self level) :=
  .andThen (passes_mark hc.tail _) fun _ => (hself level).bind fun _ he =>
    keeps_pure (hc.starred he)

theorem keeps_starredOrNamed : Keeps I E (starredOrNamed self) :=
  (keeps_starred hc hself _).orElse (keeps_named hc hself)

theorem keeps_starredOrExpression : Keeps I E (starredOrExpression self) :=
  (keeps_starred hc hself _).orElse (hself _)

theorem keeps_starExpressions : Keeps I E (starExpressions self) :=
  ((keeps_starredOrExpression hc hself).commaList hc.tail).bind fun _ h => keeps_pure (hc.grouped h)

theorem keeps_expressions : Keeps I E (expressions self) :=
  ((hself _).commaList hc.tail).bind fun _ h => keeps_pure (hc.grouped h)

theorem keeps_loopTargets : Keeps I E (loopTargets self) :=
  (((keeps_starred hc hself _).orElse (hself _)).commaList hc.tail).bind fun _ h =>
    .andThen (keeps_require _).passes fun _ => keeps_pure (hc.grouped h)

theorem keeps_yieldExpression : Keeps I E (yieldExpression self) :=
  .andThen (passes_keyword hc.tail _) fun _ => .andThen (passes_accept hc.tail _) fun _ => .ite
    (.andThen (hself _).passes fun _ => keeps_pure hc.other)
    (.andThen (keeps_starExpressions hc hself).perhaps.passes fun _ => keeps_pure hc.other)

/-! ## Comprehensions and calls -/

theorem passes_forClause : Passes I (forClause self) :=
  .andThen (passes_accept hc.tail _) fun _ => .andThen (passes_keyword hc.tail _) fun _ =>
    .andThen (keeps_loopTargets hc hself).passes fun _ =>
      .andThen (passes_keyword hc.tail _) fun _ => .andThen (hself _).passes fun _ =>
        .andThen ((passes_keyword hc.tail _).seqRight (hself _)).many.passes fun _ =>
          keeps_pure trivial

theorem passes_forClauses : Passes I (forClauses self) :=
  .andThen (passes_forClause hc hself).many1.passes fun _ => keeps_pure trivial

omit hc hself in
theorem mem_values_cons {arg : Argument} {args : List Argument} {e : Expr} :
    e ∈ Argument.values (arg :: args) ↔ e ∈ Argument.values [arg] ∨ e ∈ Argument.values args := by
  have happend : Argument.values ([arg] ++ args)
      = Argument.values [arg] ++ Argument.values args := List.filterMap_append
  exact (congrArg (e ∈ ·) happend).to_iff.trans List.mem_append

theorem keeps_argument :
    Keeps I (fun arg => ∀ e ∈ Argument.values [arg], E e) (argument self) := by
  refine .andThen keeps_ahead.passes fun _ => .ite ?keyword <|
    .andThen (passes_accept hc.tail _) fun _ => .ite ?starred <|
      .andThen (passes_accept hc.tail _) fun _ => .ite ?doubleStarred ?positional
  case keyword =>
    exact .andThen hc.identifier.passes fun _ => .andThen (passes_mark hc.tail _) fun _ =>
      .andThen (hself _).passes fun _ => keeps_pure (List.forall_mem_nil _)
  case starred =>
    exact (hself _).bind fun _ he => keeps_pure (List.forall_mem_singleton.mpr (hc.starred he))
  case doubleStarred =>
    exact .andThen (hself _).passes fun _ => keeps_pure (List.forall_mem_nil _)
  case positional =>
    exact (keeps_named hc hself).bind fun _ he => .andThen (passes_notMark _) fun _ =>
      keeps_pure (List.forall_mem_singleton.mpr he)

omit hself in
theorem keeps_behindFirst {α : Type} {P : α → Prop} {r : Reader α} (h : Keeps I P r) :
    Keeps I (fun as => ∀ a ∈ as, P a) (behindFirst r) := by
  refine ((passes_mark hc.tail _).seqRight (h.separated hc.tail _)).perhaps.bind fun found hfound =>
    .andThen (passes_accept hc.tail _) fun _ => keeps_pure ?_
  cases found with
  | none => exact List.forall_mem_nil _
  | some as => exact hfound as rfl

theorem keeps_arguments (call : Bool) :
    Keeps I (fun es => ∀ e ∈ es, E e) (arguments self call) := by
  refine .andThen (passes_accept hc.tail _) fun _ => .ite (keeps_pure (List.forall_mem_nil _)) <|
    (keeps_argument hc hself).bind fun first hfirst => .andThen keeps_ahead.passes fun _ => ?_
  split
  · exact .andThen (passes_forClauses hc hself) fun _ => .andThen (passes_mark hc.tail _) fun _ =>
      keeps_pure (List.forall_mem_singleton.mpr hc.other)
  · refine (keeps_behindFirst hc (keeps_argument hc hself)).bind fun args hargs =>
      .andThen (passes_mark hc.tail _) fun _ => .andThen (keeps_require _).passes fun _ =>
        keeps_pure fun e he => ?_
    have hall : ∀ {args : List Argument}, (∀ arg ∈ args, ∀ e ∈ Argument.values [arg], E e) →
        e ∈ Argument.values args → E e := by
      intro args
      induction args with
      | nil => exact fun _ he => nomatch he
      | cons arg args ih =>
        intro h he
        obtain ⟨harg, hargs⟩ := List.forall_mem_cons.mp h
        exact (mem_values_cons.mp he).elim (harg e) (ih hargs)
    exact hall (List.forall_mem_cons.mpr ⟨hfirst, hargs⟩) he

/-! ## Subscripts -/

theorem keeps_sliceRest : Keeps I E (sliceRest self) :=
  .andThen (passes_mark hc.tail _) fun _ => .andThen (hself _).perhaps.passes fun _ =>
    .andThen (passes_accept hc.tail _) fun _ => .ite
      (.andThen (hself _).perhaps.passes fun _ => keeps_pure hc.other)
      (keeps_pure hc.other)

theorem keeps_slice : Keeps I E (slice self) :=
  .andThen keeps_ahead.passes fun _ => .ite (keeps_named hc hself) <|
    .andThen (passes_nextIsMark _) fun _ => .ite (keeps_sliceRest hc hself) <|
      (hself _).bind fun _ he => .andThen (passes_nextIsMark _) fun _ =>
        .ite (keeps_sliceRest hc hself) <|
          .andThen (passes_notMark _) fun _ => keeps_pure he

theorem keeps_index : Keeps I E (index self) := by
  refine (((keeps_starred hc hself _).orElse (keeps_slice hc hself)).commaList hc.tail).bind
    fun items hitems => .andThen (passes_mark hc.tail _) fun _ => ?_
  split
  · exact keeps_pure (hc.tuple hitems)
  · exact keeps_pure (hc.grouped hitems)

/-! ## Atoms -/

omit hself in
theorem keeps_strings : Keeps I E strings := by
  intro ts e rest hts hr
  obtain ⟨⟨literals, left⟩, htexts, hr⟩ := Option.bind_eq_some_iff.mp hr
  have hsplit : ts = literals.map .text ++ left := by
    refine eq_of_many1 (fun ts value rest h => ?_) htexts
    split at h
    · cases h
      rfl
    · cases h
  cases hjoined : joined literals with
  | some found =>
    simp only [hjoined] at hr
    cases hr
    exact ⟨hc.joined (hsplit ▸ hts) hjoined, hc.drop (hsplit ▸ hts)⟩
  | none =>
    simp only [hjoined] at hr
    cases hr

theorem keeps_parenthesized : Keeps I E (parenthesized self) := by
  refine .andThen (passes_accept hc.tail _) fun _ =>
    .ite (keeps_pure (hc.tuple (List.forall_mem_nil _))) <|
    .andThen (passes_nextIsKeyword _) fun _ => .ite ?yield <|
      (keeps_starredOrNamed hc hself).bind fun first hfirst =>
        .andThen keeps_ahead.passes fun _ => .ite ?generator <|
          .andThen (passes_accept hc.tail _) fun _ => .ite ?tuple ?single
  case yield =>
    exact (keeps_yieldExpression hc hself).bind fun _ he =>
      .andThen (passes_mark hc.tail _) fun _ => keeps_pure he
  case generator =>
    exact .andThen (keeps_require _).passes fun _ => .andThen (passes_forClauses hc hself) fun _ =>
      .andThen (passes_mark hc.tail _) fun _ => keeps_pure hc.other
  case tuple =>
    refine ((keeps_starredOrNamed hc hself).commaList hc.tail).perhaps.bind fun rest hrest =>
      .andThen (passes_mark hc.tail _) fun _ => ?_
    split
    · exact keeps_pure (hc.tuple (List.forall_mem_cons.mpr ⟨hfirst, hrest _ rfl⟩))
    · exact keeps_pure (hc.tuple (List.forall_mem_singleton.mpr hfirst))
  case single =>
    exact .andThen (keeps_require _).passes fun _ => .andThen (passes_mark hc.tail _) fun _ =>
      keeps_pure hfirst

theorem keeps_bracketed : Keeps I E (bracketed self) := by
  refine .andThen (passes_accept hc.tail _) fun _ =>
    .ite (keeps_pure (hc.list (List.forall_mem_nil _))) <|
      (keeps_starredOrNamed hc hself).bind fun first hfirst =>
        .andThen keeps_ahead.passes fun _ => ?_
  split
  · exact keeps_fail
  · exact .andThen (passes_forClauses hc hself) fun _ => .andThen (passes_mark hc.tail _) fun _ =>
      keeps_pure hc.other
  · exact (keeps_behindFirst hc (keeps_starredOrNamed hc hself)).bind fun _ hrest =>
      .andThen (passes_mark hc.tail _) fun _ =>
        keeps_pure (hc.list (List.forall_mem_cons.mpr ⟨hfirst, hrest⟩))

theorem passes_keyValue : Passes I (keyValue self) :=
  .andThen (hself _).passes fun _ => .andThen (passes_mark hc.tail _) fun _ =>
    .andThen (hself _).passes fun _ => keeps_pure trivial

theorem passes_doubleStarred : Passes I (doubleStarred self) :=
  .andThen (passes_mark hc.tail _) fun _ => .andThen (hself _).passes fun _ => keeps_pure trivial

theorem passes_dictionaryRest (mayLoop : Bool) : Passes I (dictionaryRest self mayLoop) :=
  .andThen keeps_ahead.passes fun _ => .ite (passes_forClauses hc hself) <|
    .andThen (keeps_behindFirst hc
      ((passes_doubleStarred hc hself).orElse (passes_keyValue hc hself))).passes fun _ =>
        keeps_pure trivial

theorem keeps_braced : Keeps I E (braced self) := by
  have hclose : Keeps I E (do mark "\x7d"; return other) :=
    .andThen (passes_mark hc.tail _) fun _ => keeps_pure hc.other
  refine .andThen (passes_accept hc.tail _) fun _ => .ite (keeps_pure hc.other) <|
    .andThen (passes_nextIsMark _) fun _ => .ite ?unpacked <|
      .andThen keeps_ahead.passes fun _ => .andThen (keeps_starredOrNamed hc hself).passes fun _ =>
        .andThen (passes_nextIsMark _) fun _ => .ite ?dictionary <|
          .andThen keeps_ahead.passes fun _ => .ite ?comprehension ?set
  case unpacked =>
    exact .andThen (passes_doubleStarred hc hself) fun _ =>
      .andThen (passes_dictionaryRest hc hself _) fun _ => hclose
  case dictionary =>
    exact .andThen (passes_mark hc.tail _) fun _ => .andThen (hself _).passes fun _ =>
      .andThen (passes_dictionaryRest hc hself _) fun _ => hclose
  case comprehension =>
    exact .andThen (passes_forClauses hc hself) fun _ => hclose
  case set =>
    exact .andThen (keeps_behindFirst hc (keeps_starredOrNamed hc hself)).passes fun _ => hclose

theorem keeps_atom : Keeps I E (atom self) := by
  intro ts e rest hts hr
  unfold atom at hr
  split at hr
  · cases hr
    exact ⟨hc.name (hc.word hts), hc.tail hts⟩
  any_goals
    cases hr
    exact ⟨hc.literal, hc.tail hts⟩
  · exact keeps_strings hc hts hr
  · exact keeps_parenthesized hc hself (hc.tail hts) hr
  · exact keeps_bracketed hc hself (hc.tail hts) hr
  · exact keeps_braced hc hself (hc.tail hts) hr
  · cases hr

/-! ## Operators -/

theorem keeps_trailer {e : Expr} (he : E e) : Keeps I E (trailer self e) := by
  refine .andThen (passes_accept hc.tail _) fun _ => .ite ?member <|
    .andThen (passes_accept hc.tail _) fun _ => .ite ?subscript ?call
  case member => exact hc.identifier.bind fun _ hattr => keeps_pure (hc.member he hattr)
  case subscript => exact (keeps_index hc hself).bind fun _ hi => keeps_pure (hc.subscript he hi)
  case call =>
    exact .andThen (passes_mark hc.tail _) fun _ =>
      .andThen (keeps_arguments hc hself _).passes fun _ => keeps_pure (hc.call he)

theorem keeps_primary : Keeps I E (primary self) :=
  (keeps_atom hc hself).bind fun _ he => .extend (fun _ h => keeps_trailer hc hself h) he

theorem keeps_awaited : Keeps I E (awaited self) :=
  .andThen (passes_accept hc.tail _) fun _ => .ite
    (.andThen (keeps_primary hc hself).passes fun _ => keeps_pure hc.other)
    (keeps_primary hc hself)

theorem keeps_power : Keeps I E (power self) :=
  (keeps_awaited hc hself).bind fun _ he => .andThen (passes_accept hc.tail _) fun _ => .ite
    (.andThen (hself _).passes fun _ => keeps_pure hc.other)
    (keeps_pure he)

theorem keeps_factor : Keeps I E (factor self) :=
  .andThen (passes_oneOf hc.tail _).perhaps.passes fun _ => .ite
    (.andThen (hself _).passes fun _ => keeps_pure hc.other)
    (keeps_power hc hself)

omit hself in
theorem keeps_operation (symbols : List String) {operand : Reader Expr} (h : Keeps I E operand) :
    Keeps I E (operation symbols operand) :=
  .leftGrouped (passes_oneOf hc.tail _) h fun _ _ _ _ => hc.other

theorem keeps_bitwise : Keeps I E (bitwise self) := by
  have hshift := keeps_operation hc ["<<", ">>"] <| keeps_operation hc ["+", "-"] <|
    keeps_operation hc ["*", "/", "//", "%", "@"] (keeps_factor hc hself)
  exact .leftGrouped (passes_oneOf hc.tail _)
    (keeps_operation hc ["^"] (keeps_operation hc ["&"] hshift)) fun _ _ => hc.union

omit hself in
theorem passes_comparator : Passes I comparator := by
  refine (passes_oneOf hc.tail _).orElse <| (passes_keyword hc.tail _).orElse <| .orElse ?_ ?_
  · exact .andThen (passes_keyword hc.tail _) fun _ => passes_keyword hc.tail _
  · exact .andThen (passes_keyword hc.tail _) fun _ => .andThen (passes_accept hc.tail _) fun _ =>
      keeps_pure trivial

theorem keeps_inversion : Keeps I E (inversion self) :=
  .andThen (passes_accept hc.tail _) fun _ => .ite
    (.andThen (hself _).passes fun _ => keeps_pure hc.other)
    (.leftGrouped (passes_comparator hc) (keeps_bitwise hc hself) fun _ _ _ _ => hc.other)

theorem keeps_disjunction : Keeps I E (disjunction self) :=
  .leftGrouped (passes_keyword hc.tail _)
    (.leftGrouped (passes_keyword hc.tail _) (keeps_inversion hc hself) fun _ _ _ _ => hc.other)
    fun _ _ _ _ => hc.other

/-! ## Parameters and expressions -/

/-- What `Closed` says of expressions and identifiers, said of a parameter. -/
def KeptParameter (W : String → Prop) (E : Expr → Prop) (p : Parameter) : Prop :=
  W p.name ∧ ∀ e ∈ p.hint, E e

theorem keeps_parameter (annotated mayStar : Bool) :
    Keeps I (KeptParameter W E) (parameter self annotated mayStar) := by
  refine hc.identifier.bind fun id hid => .andThen (passes_nextIsMark _) fun _ => .ite ?_ ?_
  · have hhint : ∀ e, E e →
        Keeps I (KeptParameter W E) (pure { name := id, hint := some e } : Reader Parameter) :=
      fun e he => keeps_pure ⟨hid, fun _ he' => Option.some.inj he' ▸ he⟩
    exact .andThen (passes_mark hc.tail _) fun _ => .ite
      ((keeps_starredOrExpression hc hself).bind hhint) ((hself _).bind hhint)
  · exact keeps_pure ⟨hid, fun _ he => nomatch he⟩

theorem keeps_parameterItem (annotated : Bool) :
    Keeps I (fun item => ∀ p ∈ item.parameters, KeptParameter W E p)
      (parameterItem self annotated) := by
  have hone := fun mayStar => keeps_parameter hc hself annotated mayStar
  refine .andThen (passes_accept hc.tail _) fun _ => .ite (keeps_pure (List.forall_mem_nil _)) <|
    .andThen (passes_accept hc.tail _) fun _ => .ite ?doubleStar <|
      .andThen (passes_accept hc.tail _) fun _ => .ite ?star ?plain
  case doubleStar =>
    exact (hone false).bind fun _ hp => keeps_pure (List.forall_mem_singleton.mpr hp)
  case star =>
    exact (hone true).perhaps.bind fun _ hp => keeps_pure fun q hq => hp q (Option.mem_toList.mp hq)
  case plain =>
    refine (hone false).bind fun _ hp => .andThen (passes_accept hc.tail _) fun _ => .ite ?_ ?_
    · exact .andThen (hself _).passes fun _ => keeps_pure (List.forall_mem_singleton.mpr hp)
    · exact keeps_pure (List.forall_mem_singleton.mpr hp)

theorem keeps_parameters (annotated : Bool) (close : String) :
    Keeps I (fun ps => ∀ p ∈ ps.all, KeptParameter W E p) (parameters self annotated close) := by
  refine .andThen (passes_accept hc.tail _) fun _ => .ite (keeps_pure (List.forall_mem_nil _)) <|
    ((keeps_parameterItem hc hself annotated).commaList hc.tail).bind fun items hitems =>
      .andThen (passes_mark hc.tail _) fun _ => ?_
  split
  · rename_i ps hps
    refine keeps_pure fun p hp => (mem_all_of_positionalPart hps hp).elim (fun h => nomatch h) ?_
    intro hitem
    obtain ⟨item, hmem, hp⟩ := List.mem_flatMap.mp hitem
    exact hitems item hmem p hp
  · exact keeps_fail

theorem keeps_lambda : Keeps I E (lambda self) :=
  .andThen (passes_keyword hc.tail _) fun _ =>
    .andThen (keeps_parameters hc hself _ _).passes fun _ => .andThen (hself _).passes fun _ =>
      keeps_pure hc.other

theorem keeps_expression : Keeps I E (expression self) :=
  .andThen (passes_nextIsKeyword _) fun _ => .ite (keeps_lambda hc hself) <|
    (keeps_disjunction hc hself).bind fun _ he => .andThen (passes_accept hc.tail _) fun _ => .ite
      (.andThen (keeps_disjunction hc hself).passes fun _ =>
        .andThen (passes_keyword hc.tail _) fun _ => .andThen (hself _).passes fun _ =>
          keeps_pure hc.other)
      (keeps_pure he)

/-- One round of the grammar keeps what all levels below it keep. -/
theorem keeps_rule (level : Level) : Keeps I E (rule self level) := by
  cases level with
  | expression => exact keeps_expression hc hself
  | disjunction => exact keeps_disjunction hc hself
  | inversion => exact keeps_inversion hc hself
  | bitwise => exact keeps_bitwise hc hself
  | factor => exact keeps_factor hc hself

omit hself in
/-- **Reading keeps what is closed.** All expressions that are read from tokens with the invariant
have the property, at any depth. -/
theorem keeps_read (depth : Nat) (level : Level) : Keeps I E (read depth level) := by
  induction depth generalizing level with
  | zero => exact keeps_fail
  | succ depth ih => exact keeps_rule hc ih level

end Rules

end ClassDiagram.Source.Expr.Grammar
