import ClassDiagram.Proofs.Source.Grammar
import ClassDiagram.Proofs.Source.Lexer
import ClassDiagram.Proofs.Text.Dotted
import ClassDiagram.Source.Program

/-!
All identifiers of what is read from a text are words: those of a single expression
(`named_of_ofText?`) and those of the statements of a program (`named_of_program`). The tokens of a
text name words only, the grammar of expressions keeps that (`closed_named`), and so does the one of
statements, with one lemma for each rule.
-/

namespace ClassDiagram.Source

open Reader

/-- The names among the tokens are words. -/
def Worded (ts : List Token) : Prop := ∀ w, .name w ∈ ts → IsWord w

theorem Worded.tail {t : Token} {ts : List Token} (h : Worded (t :: ts)) : Worded ts :=
  fun w hw => h w (List.mem_cons_of_mem t hw)

theorem worded_of_tokens? {field : List Char → Bool} {text : List Char} {ts : List Token}
    (h : Lexer.tokens? field text = some ts) : Worded ts :=
  fun _ hw => Lexer.isWord_of_tokens? h hw

/-! ## Expressions -/

namespace Expr

open Grammar (Closed Level)

theorem closed_named : Closed Worded IsWord Named where
  tail := Worded.tail
  word h := (h _ List.mem_cons_self).normalize
  joined {literals _ e} _ h := by
    rw [Grammar.joined] at h
    split at h
    · cases h
      exact .literal
    · split at h
      · cases h
      · split at h
        · cases h
          exact .other
        · cases h
          exact .text _
  name := .name
  literal := .literal
  member := .member
  subscript := .subscript
  tuple := .tuple
  list := .list
  starred := .starred
  call := .call
  union := .union
  other := .other

/-- **The identifiers of an expression that is read from a text are words.** -/
theorem named_of_ofText? {text : List Char} {e : Expr} (h : ofText? text = some e) : e.Named := by
  obtain ⟨ts, hts, h⟩ := Option.bind_eq_some_iff.mp h
  rw [ofTokens?] at h
  split at h
  · rename_i found rest hread
    split at h
    · cases h
      exact (Grammar.keeps_expressions closed_named (Grammar.keeps_read closed_named _)
        (worded_of_tokens? hts) hread).1
    · cases h
  · cases h

end Expr

/-! ## Patterns -/

namespace Stmt.Pattern

section Rules

variable {I : List Token → Prop} (htail : ∀ {t : Token} {ts : List Token}, I (t :: ts) → I ts)
include htail

theorem passes_signedNumber : Passes I signedNumber := by
  refine .andThen (passes_accept htail _) fun _ => .orElse ?_ ?_
  · exact .andThen (passes_token htail _) fun _ => .andThen (passes_oneOf htail _).perhaps.passes
      fun _ => .ite (passes_token htail _) (keeps_pure trivial)
  · exact .andThen (passes_token htail _) fun _ => .andThen (passes_notMark _) fun _ =>
      passes_notMark _

theorem passes_strings : Passes I strings := by
  refine .andThen (Keeps.many1 (P := fun _ => True) fun ts value rest hts h => ?_).passes
    fun _ => (keeps_require _).passes
  split at h
  · cases h
    exact ⟨trivial, htail hts⟩
  · cases h

theorem passes_literal : Passes I literal :=
  (passes_signedNumber htail).orElse <| (passes_strings htail).orElse <|
    (passes_keyword htail _).orElse <| (passes_keyword htail _).orElse (passes_keyword htail _)

theorem passes_identifier : Passes I identifier := keeps_identifier htail fun _ => trivial

theorem passes_captured : Passes I captured :=
  .andThen keeps_ahead.passes fun _ => .andThen (keeps_require _).passes fun _ =>
    .andThen (passes_identifier htail) fun _ => .andThen (passes_notMark _) fun _ =>
      .andThen (passes_notMark _) fun _ => passes_notMark _

theorem passes_dotted : Passes I dotted :=
  .andThen ((passes_identifier htail).separated htail _).passes fun _ => keeps_pure trivial

theorem passes_dottedValue : Passes I dottedValue :=
  .andThen (passes_dotted htail) fun _ => (keeps_require _).passes

theorem passes_upTo (close : String) {p : Reader Unit} (hp : Passes I p) :
    Passes I (upTo close p) :=
  .andThen (passes_accept htail _) fun _ => .ite (keeps_pure trivial) <|
    .andThen (hp.commaList htail).passes fun _ => passes_mark htail _

variable {self : Reader Unit} (hself : Passes I self)

omit hself in
theorem passes_starred : Passes I starred :=
  .andThen (passes_mark htail _) fun _ => (passes_token htail _).orElse (passes_captured htail)

include hself

theorem passes_starredOrPattern : Passes I (starredOrPattern self) :=
  (passes_starred htail).orElse hself

theorem passes_parenthesized : Passes I (parenthesized self) :=
  .andThen (passes_accept htail _) fun _ => .ite (keeps_pure trivial) <|
    .andThen (passes_nextIsMark _) fun _ =>
      .andThen (passes_starredOrPattern htail hself) fun _ =>
        .andThen (passes_accept htail _) fun _ => .ite
          (passes_upTo htail _ (passes_starredOrPattern htail hself))
          (.andThen (keeps_require _).passes fun _ => passes_mark htail _)

theorem passes_mappingEntry : Passes I (mappingEntry self) :=
  .andThen (passes_accept htail _) fun _ => .ite
    (.andThen (passes_captured htail) fun _ => keeps_pure trivial)
    (.andThen ((passes_literal htail).orElse (passes_dottedValue htail)) fun _ =>
      .andThen (passes_mark htail _) fun _ => .andThen hself fun _ => keeps_pure trivial)

theorem passes_mapping : Passes I (mapping self) :=
  .andThen (passes_accept htail _) fun _ => .ite (keeps_pure trivial) <|
    .andThen ((passes_mappingEntry htail hself).commaList htail).passes fun _ =>
      .andThen (keeps_require _).passes fun _ => passes_mark htail _

theorem passes_classArgument : Passes I (classArgument self) := by
  refine .andThen keeps_ahead.passes fun _ => ?_
  split
  · exact .andThen (passes_identifier htail) fun _ => .andThen (passes_mark htail _) fun _ =>
      .andThen hself fun _ => keeps_pure trivial
  · exact .andThen hself fun _ => keeps_pure trivial

theorem passes_classArguments : Passes I (classArguments self) :=
  .andThen (passes_accept htail _) fun _ => .ite (keeps_pure trivial) <|
    .andThen ((passes_classArgument htail hself).commaList htail).passes fun _ =>
      .andThen (keeps_require _).passes fun _ => passes_mark htail _

theorem passes_valueOrClass : Passes I (valueOrClass self) :=
  .andThen (passes_dotted htail) fun _ => .andThen (passes_accept htail _) fun _ => .ite
    (passes_classArguments htail hself)
    (.andThen (keeps_require _).passes fun _ => passes_notMark _)

theorem passes_nested : Passes I (nested self) := by
  intro ts a rest hts hr
  unfold nested at hr
  split at hr
  · exact passes_valueOrClass htail hself hts hr
  · exact passes_parenthesized htail hself (htail hts) hr
  · exact passes_upTo htail _ (passes_starredOrPattern htail hself) (htail hts) hr
  · exact passes_mapping htail hself (htail hts) hr
  · cases hr

theorem passes_alternatives : Passes I (alternatives self) := by
  have hclosed : Passes I (closed self) :=
    (passes_literal htail).orElse <| (passes_captured htail).orElse <|
      (passes_token htail _).orElse (passes_nested htail hself)
  exact .andThen (hclosed.separated htail _).passes fun _ =>
    .andThen (passes_accept htail _) fun _ => .ite (passes_captured htail) (keeps_pure trivial)

omit hself in
theorem passes_read (depth : Nat) : Passes I (read depth) := by
  induction depth with
  | zero => exact keeps_fail
  | succ depth ih => exact passes_alternatives htail ih

omit hself in
theorem passes_readCase (depth : Nat) : Passes I (readCase depth) :=
  .andThen (passes_nextIsMark _) fun _ =>
    .andThen ((passes_starredOrPattern htail (passes_read htail depth)).commaList htail).passes
      fun _ => (keeps_require _).passes

end Rules

end Stmt.Pattern

/-! ## Simple statements -/

namespace Stmt.Grammar

open Expr.Grammar (Level)

/-- A reader of statements whose identifiers are words. -/
abbrev NamesAll (r : Reader (List Stmt)) : Prop :=
  Keeps Worded (fun stmts => ∀ stmt ∈ stmts, stmt.Named) r

section Rules

variable {expr : Level → Reader Expr} (hexpr : ∀ level, Keeps Worded Expr.Named (expr level))

theorem keeps_identifier_word : Keeps Worded IsWord identifier := Expr.closed_named.identifier

section Simple

include hexpr

theorem keeps_assignedValue : Keeps Worded Expr.Named (assignedValue expr) :=
  .andThen (passes_nextIsKeyword _) fun _ => .ite
    (Expr.Grammar.keeps_yieldExpression Expr.closed_named hexpr)
    (Expr.Grammar.keeps_starExpressions Expr.closed_named hexpr)

theorem named_expressionOrAssignment : Keeps Worded Named (expressionOrAssignment expr) := by
  refine (Expr.Grammar.keeps_starExpressions Expr.closed_named hexpr).bind fun first hfirst =>
    .andThen (passes_accept Worded.tail _) fun _ => .ite ?annotated <|
      .andThen (passes_nextIsMark _) fun _ => .ite ?assigned <|
        .andThen (passes_oneOf Worded.tail _).perhaps.passes fun _ => .ite ?augmented
          (keeps_pure .other)
  case annotated =>
    refine .andThen (keeps_require _).passes fun _ => (hexpr _).bind fun hint hhint =>
      .andThen (passes_accept Worded.tail _) fun _ => .ite ?_ (keeps_pure (.annotated hfirst hhint))
    exact .andThen (keeps_assignedValue hexpr).passes fun _ => keeps_pure (.annotated hfirst hhint)
  case assigned =>
    refine ((passes_mark Worded.tail _).seqRight (keeps_assignedValue hexpr)).many1.bind
      fun values hvalues => .andThen (keeps_require _).passes fun _ => keeps_pure (.assign ?_)
    exact List.forall_mem_cons.mpr ⟨hfirst, fun e he => hvalues e (List.dropLast_subset _ he)⟩
  case augmented =>
    exact .andThen (keeps_require _).passes fun _ =>
      .andThen (keeps_assignedValue hexpr).passes fun _ => keeps_pure .other

theorem named_returned : Keeps Worded Named (returned expr) :=
  .andThen (Expr.Grammar.keeps_starExpressions Expr.closed_named hexpr).perhaps.passes
    fun _ => keeps_pure .other

theorem named_raised : Keeps Worded Named (raised expr) :=
  .andThen (hexpr _).perhaps.passes fun _ => .ite
    (.andThen (passes_accept Worded.tail _) fun _ => .ite
      (.andThen (hexpr _).passes fun _ => keeps_pure .other) (keeps_pure .other))
    (keeps_pure .other)

theorem named_deleted : Keeps Worded Named (deleted expr) :=
  .andThen (Expr.Grammar.keeps_starExpressions Expr.closed_named hexpr).passes fun _ =>
    .andThen (keeps_require _).passes fun _ => keeps_pure .other

theorem named_asserted : Keeps Worded Named (asserted expr) :=
  .andThen (hexpr _).passes fun _ => .andThen (passes_accept Worded.tail _) fun _ => .ite
    (.andThen (hexpr _).passes fun _ => keeps_pure .other) (keeps_pure .other)

end Simple

theorem named_names : Keeps Worded Named names :=
  .andThen (keeps_identifier_word.separated Worded.tail _).passes fun _ => keeps_pure .other

/-! ## Imports -/

theorem isDotted_intercalate {ids : List String} (hne : ids ≠ []) (h : ∀ id ∈ ids, IsWord id) :
    IsDotted (String.intercalate "." ids) := by
  intro s hs
  have hsegments := Text.Dotted.segments_join hne fun id hid => (h id hid).point
  exact h s (hsegments ▸ hs)

theorem keeps_dottedName : Keeps Worded IsDotted dottedName := by
  intro ts name rest hts hr
  obtain ⟨⟨ids, left⟩, hids, hr⟩ := Option.bind_eq_some_iff.mp hr
  obtain ⟨⟨first, mid⟩, -, hmore⟩ := Option.bind_eq_some_iff.mp hids
  obtain ⟨hwords, hleft⟩ := keeps_identifier_word.separated Worded.tail "." hts hids
  cases hmore
  cases hr
  exact ⟨isDotted_intercalate (List.cons_ne_nil _ _) hwords, hleft⟩

theorem keeps_renamable {kind : String → Prop} {name : Reader String} (h : Keeps Worded kind name) :
    Keeps Worded (Alias.Names kind) (renamable name) :=
  h.bind fun _ hid => .andThen (passes_accept Worded.tail _) fun _ => .ite
    (keeps_identifier_word.bind fun _ hbound =>
      keeps_pure ⟨hid, fun _ hb => Option.some.inj hb ▸ hbound⟩)
    (keeps_pure ⟨hid, fun _ hb => nomatch hb⟩)

theorem passes_relativeLevel : Passes Worded relativeLevel := by
  refine .andThen (Keeps.many (P := fun _ => True) fun ts value rest hts h => ?_).passes
    fun _ => keeps_pure trivial
  split at h
  · cases h
    exact ⟨trivial, hts.tail⟩
  · cases h
    exact ⟨trivial, hts.tail⟩
  · cases h

theorem keeps_importedNames :
    Keeps Worded (fun aliases => ∀ a ∈ aliases, a.Names IsMember) importedNames := by
  have hmember : Keeps Worded IsMember identifier := keeps_identifier_word.mono fun _ => .inr
  refine .andThen (passes_accept Worded.tail _) fun _ => .ite ?_ <|
    .andThen (passes_accept Worded.tail _) fun _ => .ite ?_
      ((keeps_renamable hmember).separated Worded.tail _)
  · exact keeps_pure (List.forall_mem_singleton.mpr ⟨.inl rfl, fun _ hb => nomatch hb⟩)
  · exact ((keeps_renamable hmember).commaList Worded.tail).bind fun _ h =>
      .andThen (passes_mark Worded.tail _) fun _ => keeps_pure h

theorem named_imported : Keeps Worded Named imported :=
  ((keeps_renamable keeps_dottedName).separated Worded.tail _).bind fun _ h =>
    keeps_pure (.importModules h)

theorem named_importedFrom : Keeps Worded Named importedFrom := by
  refine .andThen passes_relativeLevel fun level => ?_
  have hrest : ∀ source : Option String, (∀ name ∈ source, IsDotted name) →
      Keeps Worded Named (do
        keyword "import"
        return importFrom source (← importedNames) level) := fun source hsource =>
    .andThen (passes_keyword Worded.tail _) fun _ => keeps_importedNames.bind fun _ h =>
      keeps_pure (.importFrom level hsource h)
  have hnamed : Keeps Worded (fun source => ∀ name ∈ source, IsDotted name)
      (some <$> dottedName) := keeps_dottedName.map fun _ h _ hname => Option.some.inj hname ▸ h
  exact .ite (keeps_dottedName.perhaps.bind hrest) (hnamed.bind hrest)

section Lines

include hexpr

theorem named_simple : Keeps Worded Named (simple expr) := by
  intro ts stmt rest hts hr
  unfold simple at hr
  split at hr
  any_goals
    cases hr
    exact ⟨.other, hts.tail⟩
  · exact named_returned hexpr hts.tail hr
  · exact named_raised hexpr hts.tail hr
  · exact named_names hts.tail hr
  · exact named_names hts.tail hr
  · exact named_deleted hexpr hts.tail hr
  · exact named_asserted hexpr hts.tail hr
  · exact named_imported hts.tail hr
  · exact named_importedFrom hts.tail hr
  · have hyield : Keeps Worded Named (do
        let _ ← Expr.Grammar.yieldExpression expr
        return other) :=
      .andThen (Expr.Grammar.keeps_yieldExpression Expr.closed_named hexpr).passes
        fun _ => keeps_pure .other
    exact hyield hts hr
  · exact named_expressionOrAssignment hexpr hts hr

theorem named_simpleLine : NamesAll (simpleLine expr) :=
  ((named_simple hexpr).separated Worded.tail _).bind fun _ h =>
    .andThen (passes_accept Worded.tail _) fun _ => .andThen (passes_token Worded.tail _) fun _ =>
      keeps_pure h

end Lines

/-! ## Compound statements -/

variable {block : Reader (List Stmt)}
variable (hblock : NamesAll block)

section Blocks

include hblock

theorem named_colonBlock : NamesAll (colonBlock block) :=
  .andThen (passes_mark Worded.tail _) fun _ => hblock

theorem named_elseBlock : NamesAll (elseBlock block) :=
  .andThen (passes_accept Worded.tail _) fun _ => .ite (named_colonBlock hblock)
    (keeps_pure (List.forall_mem_nil _))

theorem named_finallyBlock : NamesAll (finallyBlock block) :=
  .andThen (passes_keyword Worded.tail _) fun _ => named_colonBlock hblock

omit hblock in
/-- A statement that consists of a block. -/
theorem named_compoundBlock {r : Reader (List Stmt)} (h : NamesAll r) :
    Keeps Worded Named (do return compound (← r)) := h.bind fun _ h => keeps_pure (.compound h)

end Blocks

theorem named_append {as bs : List Stmt} (ha : ∀ stmt ∈ as, stmt.Named)
    (hb : ∀ stmt ∈ bs, stmt.Named) : ∀ stmt ∈ as ++ bs, stmt.Named :=
  List.forall_mem_append.mpr ⟨ha, hb⟩

include hexpr hblock

theorem named_condition : NamesAll (condition expr block) :=
  .andThen (Expr.Grammar.keeps_named Expr.closed_named hexpr).passes fun _ =>
    named_colonBlock hblock

theorem named_conditional : Keeps Worded Named (conditional expr block) := by
  refine (named_condition hexpr hblock).bind fun body hbody =>
    ((passes_keyword Worded.tail _).seqRight (named_condition hexpr hblock)).many.bind
      fun branches hbranches => (named_elseBlock hblock).bind fun last hlast =>
        keeps_pure (.compound (named_append hbody ?_))
  induction branches with
  | nil => exact hlast
  | cons branch branches ih =>
    obtain ⟨hbranch, hbranches⟩ := List.forall_mem_cons.mp hbranches
    exact List.forall_mem_singleton.mpr (.compound (named_append hbranch (ih hbranches)))

theorem named_whileLoop : Keeps Worded Named (whileLoop expr block) :=
  (named_condition hexpr hblock).bind fun _ hbody => (named_elseBlock hblock).bind fun _ hlast =>
    keeps_pure (.compound (named_append hbody hlast))

theorem named_forLoop : Keeps Worded Named (forLoop expr block) :=
  .andThen (Expr.Grammar.keeps_loopTargets Expr.closed_named hexpr).passes fun _ =>
    .andThen (passes_keyword Worded.tail _) fun _ =>
      .andThen (Expr.Grammar.keeps_starExpressions Expr.closed_named hexpr).passes fun _ =>
        (named_colonBlock hblock).bind fun _ hbody => (named_elseBlock hblock).bind fun _ hlast =>
          keeps_pure (.compound (named_append hbody hlast))

omit hblock in
theorem passes_withItem : Passes Worded (withItem expr) := by
  refine .andThen (hexpr _).passes fun _ => .andThen (passes_accept Worded.tail _) fun _ =>
    .ite ?_ (keeps_pure trivial)
  exact .andThen
    ((Expr.Grammar.keeps_starred Expr.closed_named hexpr _).orElse (hexpr _)).passes fun _ =>
      .andThen (keeps_require _).passes fun _ => .andThen (passes_nextIsMark _) fun _ =>
        .andThen (passes_nextIsMark _) fun _ => .andThen (passes_nextIsMark _) fun _ =>
          (keeps_require _).passes

omit hblock in
theorem passes_withHeader : Passes Worded (withHeader expr) := by
  have hitem := passes_withItem hexpr
  refine .orElse ?_ ?_
  · exact .andThen (passes_mark Worded.tail _) fun _ =>
      .andThen (hitem.commaList Worded.tail).passes fun _ =>
        .andThen (passes_mark Worded.tail _) fun _ => passes_mark Worded.tail _
  · exact .andThen (hitem.separated Worded.tail _).passes fun _ => passes_mark Worded.tail _

theorem named_withBlock : Keeps Worded Named (withBlock expr block) :=
  .andThen (passes_withHeader hexpr) fun _ => named_compoundBlock hblock

omit hblock in
theorem passes_caught : Passes Worded (caught expr) :=
  .andThen (passes_nextIsMark _) fun _ => .ite
    (.andThen (hexpr _).passes fun _ => .andThen (passes_accept Worded.tail _) fun _ => .ite
      (.andThen keeps_identifier_word.passes fun _ => keeps_pure trivial) (keeps_pure trivial))
    (keeps_pure trivial)

theorem named_handler : Keeps Worded Named (handler expr block) :=
  .andThen (passes_keyword Worded.tail _) fun _ => .andThen (passes_caught hexpr) fun _ =>
    named_compoundBlock (named_colonBlock hblock)

theorem named_groupHandler : Keeps Worded Named (groupHandler expr block) :=
  .andThen (passes_keyword Worded.tail _) fun _ => .andThen (passes_mark Worded.tail _) fun _ =>
    .andThen (passes_nextIsMark _) fun _ => .andThen (keeps_require _).passes fun _ =>
      .andThen (passes_caught hexpr) fun _ =>
        named_compoundBlock (named_colonBlock hblock)

theorem named_tryBlock : Keeps Worded Named (tryBlock expr block) := by
  refine (named_colonBlock hblock).bind fun body hbody => .andThen (passes_nextIsKeyword _) fun _ =>
    .ite ?_ (.andThen keeps_ahead.passes fun _ => ?_)
  · exact (named_finallyBlock hblock).bind fun _ hlast =>
      keeps_pure (.compound (named_append hbody hlast))
  · have hrest : ∀ handlers : List Stmt, (∀ stmt ∈ handlers, stmt.Named) → Keeps Worded Named (do
        let orelse ← elseBlock block
        let last ← if ← nextIsKeyword "finally" then finallyBlock block else pure []
        return compound (body ++ handlers ++ orelse ++ last)) := by
      intro handlers hhandlers
      refine (named_elseBlock hblock).bind fun orelse horelse =>
        .andThen (passes_nextIsKeyword _) fun _ => ?_
      have hfront := named_append (named_append hbody hhandlers) horelse
      exact .ite
        ((named_finallyBlock hblock).bind fun _ hlast =>
          keeps_pure (.compound (named_append hfront hlast)))
        (keeps_pure (.compound (named_append hfront (List.forall_mem_nil _))))
    split
    · exact (named_groupHandler hexpr hblock).many1.bind hrest
    · exact (named_handler hexpr hblock).many1.bind hrest

theorem named_case (depth : Nat) : Keeps Worded Named (case expr block depth) :=
  have hblock := named_compoundBlock (named_colonBlock hblock)
  .andThen (passes_token Worded.tail _) fun _ =>
    .andThen (Pattern.passes_readCase Worded.tail depth) fun _ =>
      .andThen (passes_accept Worded.tail _) fun _ => .ite
        (.andThen (Expr.Grammar.keeps_named Expr.closed_named hexpr).passes fun _ => hblock) hblock

omit hblock in
theorem passes_subject : Passes Worded (subject expr) :=
  .andThen (passes_nextIsMark _) fun _ =>
    .andThen ((Expr.Grammar.keeps_starredOrNamed Expr.closed_named hexpr).commaList
      Worded.tail).passes fun _ => (keeps_require _).passes

theorem named_matchBlock : Keeps Worded Named (matchBlock expr block) :=
  .andThen keeps_ahead.passes fun _ => .andThen (passes_token Worded.tail _) fun _ =>
    .andThen (passes_subject hexpr) fun _ => .andThen (passes_mark Worded.tail _) fun _ =>
      .andThen (passes_token Worded.tail _) fun _ => .andThen (passes_token Worded.tail _) fun _ =>
        (named_case hexpr hblock _).many1.bind fun _ h =>
          .andThen (passes_token Worded.tail _) fun _ => keeps_pure (.compound h)

/-! ## Definitions -/

theorem named_classDefinition : Keeps Worded Named (classDefinition expr block) := by
  refine .andThen (passes_keyword Worded.tail _) fun _ => keeps_identifier_word.bind
    fun name hname => .andThen (passes_accept Worded.tail _) fun _ => ?_
  have hbody : ∀ bases : List Expr, (∀ e ∈ bases, e.Named) → Keeps Worded Named (do
      return classDef name bases (← colonBlock block)) := fun bases hbases =>
    (named_colonBlock hblock).bind fun _ h => keeps_pure (.classDef hname hbases h)
  exact .ite ((Expr.Grammar.keeps_arguments Expr.closed_named hexpr _).bind hbody)
    ((keeps_pure (List.forall_mem_nil _)).bind hbody)

theorem named_functionDefinition {decorators : List Expr} (h : ∀ e ∈ decorators, e.Named) :
    Keeps Worded Named (functionDefinition expr block decorators) := by
  refine .andThen (passes_keyword Worded.tail _) fun _ => keeps_identifier_word.bind
    fun name hname => .andThen (passes_mark Worded.tail _) fun _ =>
      (Expr.Grammar.keeps_parameters Expr.closed_named hexpr _ _).bind fun parameters hps =>
        .andThen (passes_accept Worded.tail _) fun _ => ?_
  have hparameters : ∀ p ∈ parameters.all, p.Named := fun p hp => ⟨(hps p hp).1, (hps p hp).2⟩
  have hbody : ∀ returns : Option Expr, (∀ e ∈ returns, e.Named) → Keeps Worded Named (do
      return functionDef { name, parameters, returns, decorators } (← colonBlock block)) :=
    fun returns hreturns => (named_colonBlock hblock).bind fun _ hstmts =>
      keeps_pure (.functionDef ⟨hname, hparameters, hreturns, h⟩ hstmts)
  have hreturn : Keeps Worded (fun returns : Option Expr => ∀ e ∈ returns, e.Named)
      (some <$> expr .expression) := (hexpr _).map fun _ he _ hb => Option.some.inj hb ▸ he
  have hnone : Keeps Worded (fun returns : Option Expr => ∀ e ∈ returns, e.Named)
      (pure none) := keeps_pure fun _ he => nomatch he
  exact .ite (hreturn.bind hbody) (hnone.bind hbody)

omit hblock in
theorem keeps_decorator : Keeps Worded Expr.Named (decorator expr) :=
  .andThen (passes_mark Worded.tail _) fun _ =>
    (Expr.Grammar.keeps_named Expr.closed_named hexpr).bind fun _ he =>
      .andThen (passes_token Worded.tail _) fun _ => keeps_pure he

theorem named_decorated : Keeps Worded Named (decorated expr block) :=
  (keeps_decorator hexpr).many1.bind fun _ h => .andThen (passes_nextIsKeyword _) fun _ => .ite
    (named_classDefinition hexpr hblock)
    (.andThen (passes_accept Worded.tail _) fun _ => named_functionDefinition hexpr hblock h)

theorem named_compoundStatement : Keeps Worded Named (compoundStatement expr block) := by
  intro ts stmt rest hts hr
  unfold compoundStatement at hr
  have hplain := named_functionDefinition hexpr hblock (List.forall_mem_nil _)
  split at hr
  · exact named_conditional hexpr hblock hts.tail hr
  · exact named_whileLoop hexpr hblock hts.tail hr
  · exact named_forLoop hexpr hblock hts.tail hr
  · exact named_forLoop hexpr hblock hts.tail.tail hr
  · exact named_withBlock hexpr hblock hts.tail hr
  · exact named_withBlock hexpr hblock hts.tail.tail hr
  · exact named_tryBlock hexpr hblock hts.tail hr
  · exact hplain hts.tail hr
  · exact hplain hts hr
  · exact named_classDefinition hexpr hblock hts hr
  · exact named_decorated hexpr hblock hts hr
  · exact named_matchBlock hexpr hblock hts hr
  · cases hr

theorem named_statement : NamesAll (statement expr block) := by
  refine .orElse ?_ (named_simpleLine hexpr)
  exact (named_compoundStatement hexpr hblock).bind fun _ h =>
    keeps_pure (List.forall_mem_singleton.mpr h)

omit hblock in
theorem named_blockOf {statement : Reader (List Stmt)} (h : NamesAll statement) :
    NamesAll (blockOf expr statement) := by
  refine .orElse ?_ (named_simpleLine hexpr)
  exact .andThen (passes_token Worded.tail _) fun _ => .andThen (passes_token Worded.tail _)
    fun _ => h.many1.bind fun _ hstmts => .andThen (passes_token Worded.tail _) fun _ =>
      keeps_pure (List.forall_mem_flatten.mpr hstmts)

omit hblock in
theorem named_read (depth : Nat) : NamesAll (read expr depth) := by
  induction depth with
  | zero => exact keeps_fail
  | succ depth ih => exact named_statement hexpr (named_blockOf hexpr ih)

end Rules

end Stmt.Grammar

/-- **The identifiers of a program are words.** -/
theorem named_of_program {text : List Char} {stmts : List Stmt}
    (h : Program.ofText? text = some stmts) : ∀ stmt ∈ stmts, stmt.Named := by
  obtain ⟨ts, hts, h⟩ := Option.bind_eq_some_iff.mp h
  rw [Stmt.Grammar.readAll] at h
  split at h
  · rename_i blocks hread
    cases h
    have hexpr := Expr.Grammar.keeps_read Expr.closed_named (ts.length + 1)
    have hblocks := ((Stmt.Grammar.named_read hexpr _).many (worded_of_tokens? hts) hread).1
    exact List.forall_mem_flatten.mpr hblocks
  · cases h

end ClassDiagram.Source
