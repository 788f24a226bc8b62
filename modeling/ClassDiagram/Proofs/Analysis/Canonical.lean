import ClassDiagram.Proofs.Analysis.ClassMembers
import ClassDiagram.Proofs.Analysis.Sites
import ClassDiagram.Proofs.Diagram.KnownClasses
import ClassDiagram.Proofs.Source.Program

/-!
The names that an analysis stores. Where the identifiers of a module are words, all of them are
canonical: one word, or a word behind a scope that is not empty (`QualifiedName.Canonical`). The
table of imports keeps targets that are such names (`Scope.Sound.behind`), and so do all look-ups in
it (`Scope.gives_of_resolve`). So all names that a module stores are canonical
(`ParsedSource.gives_of_module`). The identifiers of a text are words
(`ParsedSource.exists_named_of_ofText`).
-/

namespace ClassDiagram

open Source (Alias Expr FunctionHead IsDotted IsMember IsWord Parameter Stmt)
open Text.Dotted (join segments)

/-! ## Characters of dotted names -/

namespace Text.Dotted

/-- All characters of a name are of one kind. -/
def MadeOf (P : Char → Prop) (name : String) : Prop := ∀ c ∈ name.toList, P c

variable {P : Char → Prop} {a b : String}

theorem madeOf_append (ha : MadeOf P a) (hb : MadeOf P b) : MadeOf P (a ++ b) := by
  intro c hc
  rw [String.toList_append] at hc
  exact (List.mem_append.mp hc).elim (ha c) (hb c)

theorem madeOf_point (hpoint : P '.') : MadeOf P "." :=
  fun _ hc => List.mem_singleton.mp hc ▸ hpoint

theorem madeOf_join (hpoint : P '.') {parts : List String} (h : ∀ s ∈ parts, MadeOf P s) :
    MadeOf P (join parts) := by
  induction parts with
  | nil => exact fun _ hc => nomatch hc
  | cons s parts ih =>
    obtain ⟨hs, hparts⟩ := List.forall_mem_cons.mp h
    by_cases hnil : parts = []
    · rw [hnil, join_singleton]
      exact hs
    · rw [join, String.intercalate_cons_of_ne_nil hnil]
      exact madeOf_append (madeOf_append hs (madeOf_point hpoint)) (ih hparts)

theorem madeOf_of_join {parts : List String} (h : MadeOf P (join parts)) :
    ∀ s ∈ parts, MadeOf P s := by
  induction parts with
  | nil => exact List.forall_mem_nil _
  | cons s parts ih =>
    by_cases hnil : parts = []
    · rw [hnil, join_singleton] at h
      rw [hnil]
      exact List.forall_mem_singleton.mpr h
    · rw [join, String.intercalate_cons_of_ne_nil hnil] at h
      refine List.forall_mem_cons.mpr ⟨fun c hc => h c ?_, ih fun c hc => h c ?_⟩
      all_goals simp only [String.toList_append, List.mem_append]
      · exact .inl (.inl hc)
      · exact .inr hc

theorem madeOf_segments (h : MadeOf P a) : ∀ s ∈ segments a, MadeOf P s := by
  rw [← join_segments a] at h
  exact madeOf_of_join h

end Text.Dotted

open Text.Dotted (MadeOf)

/-! ## Canonical names -/

namespace QualifiedName

/-- A word, alone or behind a scope. -/
inductive Canonical : QualifiedName → Prop
  | single {n : String} (h : IsWord n) : Canonical (.single n)
  | pair {scope n : String} (hscope : scope ≠ "") (h : IsWord n) : Canonical (.pair scope n)

variable {q r : QualifiedName}

theorem Canonical.isWord (h : q.Canonical) : IsWord q.name := by
  cases h with
  | single h | pair _ h => exact h

theorem Canonical.ne_empty (h : q.Canonical) : ∀ s ∈ q.parts, s ≠ "" := by
  cases h with
  | single h => exact List.forall_mem_singleton.mpr h.nonempty
  | pair hscope h =>
    exact List.forall_mem_cons.mpr ⟨hscope, List.forall_mem_singleton.mpr h.nonempty⟩

theorem pair_inj {a b c d : String} (h : pair a b = pair c d) : a = c ∧ b = d := by
  cases congrArg parts h
  exact ⟨rfl, rfl⟩

/-- A canonical name comes back from its full name. -/
theorem Canonical.ofDotted_fullName (h : q.Canonical) : ofDotted q.fullName = q := by
  cases h with
  | @single n h =>
    have hname : (QualifiedName.single n).fullName = n := Text.Dotted.join_singleton n
    rw [hname, ofDotted, Text.Dotted.splitLast, Text.Dotted.segments_of_not_mem h.point]
    exact if_pos rfl
  | pair hscope h => exact ofDotted_append hscope h.point

theorem Canonical.fullName_ne_empty (h : q.Canonical) : q.fullName ≠ "" :=
  Text.Dotted.join_ne_empty q.nonempty fun hempty => h.ne_empty _ hempty rfl

/-- The full names of canonical names tell them apart. -/
theorem Canonical.fullName_inj (hq : q.Canonical) (hr : r.Canonical) :
    q.fullName = r.fullName ↔ q = r := by
  refine ⟨fun h => ?_, fun h => h ▸ rfl⟩
  rw [← hq.ofDotted_fullName, h, hr.ofDotted_fullName]

end QualifiedName

open QualifiedName (Canonical)

/-- A dotted name that stands for a canonical one. -/
def IsTarget (name : String) : Prop := ∃ q : QualifiedName, q.Canonical ∧ q.fullName = name

theorem isTarget_of_isWord {name : String} (h : IsWord name) : IsTarget name :=
  ⟨_, .single h, Text.Dotted.join_singleton name⟩

theorem isTarget_append {scope name : String} (hscope : scope ≠ "") (h : IsWord name) :
    IsTarget (scope ++ "." ++ name) := ⟨_, .pair hscope h, rfl⟩

theorem isTarget_of_isDotted {name : String} (h : IsDotted name) : IsTarget name := by
  have hne := Text.Dotted.segments_ne_nil name
  obtain ⟨front, last, hsplit⟩ : ∃ front last, segments name = front ++ [last] :=
    ⟨_, _, (List.dropLast_append_getLast hne).symm⟩
  rw [← Text.Dotted.join_segments name, hsplit]
  have hwords : ∀ s ∈ front ++ [last], IsWord s := fun s hs => h s (hsplit ▸ hs)
  obtain ⟨hfront, hlast⟩ := List.forall_mem_append.mp hwords
  have hlast : IsWord last := List.forall_mem_singleton.mp hlast
  by_cases hnil : front = []
  · rw [hnil, List.nil_append, Text.Dotted.join_singleton]
    exact isTarget_of_isWord hlast
  · rw [Text.Dotted.join_append hnil (List.cons_ne_nil _ _), Text.Dotted.join_singleton]
    refine isTarget_append (Text.Dotted.join_ne_empty hnil fun hempty => ?_) hlast
    exact (hfront _ hempty).nonempty rfl

/-! ## Look-ups -/

/-- A kind of characters that words and dotted names are made of. -/
structure AdmitsNames (P : Char → Prop) : Prop where
  word : ∀ c, Source.Numeral.isWordChar c = true → P c
  point : P '.'

theorem AdmitsNames.madeOf_of_isWord {P : Char → Prop} (hP : AdmitsNames P) {name : String}
    (h : IsWord name) : MadeOf P name :=
  fun c hc => hP.word c (h.chars c hc)

/-- The identifiers of what a string holds are words. -/
theorem Annotation.named_of_expression? {value : List Text.CodePoint}
    {e : { e : Expr // e.longestText < value.length }} (h : expression? value = .ok (some e)) :
    e.1.Named := by
  rw [expression?] at h
  split at h
  · cases h
  · split at h
    · rename_i found hread
      split at h
      · cases h
        exact Source.Expr.named_of_ofText? hread
      · cases h
    · cases h

/-! ## Statements -/

/-- The types in the signature of a function. -/
def Method.types (f : Method String) : List QualifiedName := f.returnType.toList ++ f.argumentTypes

/-- The types that a class mentions. -/
def Class.types (c : Class) : List QualifiedName :=
  c.base.toList ++ c.properties.filterMap Property.type ++ c.methods.flatMap Method.types

/-- The types that a module mentions. -/
def Module.types (m : Module) : List QualifiedName :=
  m.classes.flatMap Class.types ++ m.methods.flatMap Method.types

/-- The identifiers of an import are words. -/
inductive Import.Named : Import → Prop
  | module {a : Alias} (h : a.Names IsDotted) : Named (.module a)
  | member {source : Option String} (level : Nat) {a : Alias}
      (hsource : ∀ name ∈ source, IsDotted name) (h : a.Names IsMember) :
    Named (.member source level a)

theorem Import.named_of_mem_ofStmt {stmt : Stmt} (h : stmt.Named) {i : Import}
    (hi : i ∈ ofStmt stmt) : i.Named := by
  cases h with
  | importModules h =>
    obtain ⟨a, ha, rfl⟩ := List.mem_map.mp hi
    exact .module (h a ha)
  | importFrom level hsource h =>
    obtain ⟨a, ha, rfl⟩ := List.mem_map.mp hi
    exact .member level hsource (h a ha)
  | _ => cases hi

/-- The type of a stored property is that of one that was put in. -/
theorem Property.exists_type_of_mem_insertAll {ρ : Type} {ps : List (Property ρ)} {p : Property ρ}
    (hp : p ∈ insertAll ps) {q : QualifiedName} (h : p.type = some q) :
    ∃ r ∈ ps, r.type = some q := by
  rw [(combines_of_mem_insertAll hp).type] at h
  obtain ⟨r, hr, htype⟩ := List.exists_of_findSome?_eq_some h
  exact ⟨r, (List.mem_filter.mp hr).1, htype⟩

theorem Source.Stmt.Named.part {stmt : Stmt} (h : stmt.Named) : ∀ x ∈ stmt.parts, x.Named := by
  cases h with
  | classDef _ _ h | functionDef _ h | compound h => exact h
  | _ => exact List.forall_mem_nil _

/-- The identifiers of statements at any depth are words. -/
theorem Source.Stmt.Named.holds {stmt x : Stmt} (h : stmt.Named) (hx : stmt.Holds x) : x.Named := by
  induction hx with
  | self => exact h
  | part hpart _ ih => exact ih (h.part _ hpart)

theorem Source.Stmt.Named.reaches {stmt x : Stmt} {path : List Nat} (h : stmt.Named)
    (hx : stmt.Reaches path x) : x.Named := by
  induction hx with
  | self => exact h
  | part hpart _ ih => exact ih (h.part _ (List.mem_of_getElem? hpart))

namespace Scope

theorem mem_all_of_mem_signatureParameters {ps : Source.Parameters} {p : Parameter}
    (h : p ∈ signatureParameters ps) : p ∈ ps.all := by
  simp only [signatureParameters, Source.Parameters.all, List.mem_append] at h ⊢
  tauto

theorem plainlyDecorated_of_named {stmt : Stmt} (h : stmt.Named) : PlainlyDecorated stmt := by
  cases h with
  | functionDef hhead _ => exact hhead.decorators
  | _ => trivial

theorem named_hint {stmt : Stmt} (h : stmt.Named) {o : Origin} (ho : Contributes stmt o) :
    ∀ e ∈ o.hint, e.Named := by
  cases ho with
  | getter =>
    cases h with
    | functionDef hhead _ => exact hhead.returns
  | setter =>
    cases h with
    | functionDef hhead _ =>
      intro e he
      obtain ⟨p, hp, he⟩ := Option.bind_eq_some_iff.mp he
      have hmem := List.mem_of_getElem? hp
      refine (hhead.parameters p (mem_all_of_mem_signatureParameters ?_)).hint e he
      exact List.mem_append_left _ (List.mem_append_right _ hmem)
  | annotated =>
    cases h with
    | annotated _ hhint => exact fun e he => Option.some.inj he ▸ hhint
  | hinted _ hx =>
    cases h.holds hx with
    | annotated _ hhint => exact fun e he => Option.some.inj he ▸ hhint
  | assigned | set => exact fun _ he => nomatch he

variable {P : Char → Prop} (hP : AdmitsNames P) {s : Scope}

/-- Where the names of a scope come from: its module has a name, its classes are words, and its
bindings lead to canonical names. -/
structure Sound (P : Char → Prop) (s : Scope) : Prop where
  nonempty : s.moduleName ≠ ""
  module : MadeOf P s.moduleName
  classes : ∀ c ∈ s.classes, IsWord c
  targets : ∀ entry ∈ s.bindings, IsTarget entry.2 ∧ MadeOf P entry.2

/-- What is said of the names that a look-up gives. A typing module is only the scope of a class of
the module itself. -/
structure Gives (P : Char → Prop) (s : Scope) (q : QualifiedName) : Prop where
  canonical : q.Canonical
  chars : ∀ part ∈ q.parts, MadeOf P part
  typing : ∀ scope n, q = .pair scope n → scope ∈ typingModules →
    scope = s.moduleName ∧ n ∈ s.classes

theorem named_argument {index e : Expr} (h : index.Named) (he : e ∈ subscriptArguments index) :
    e.Named := by
  cases h with
  | tuple h => exact h e he
  | _ =>
    rw [List.mem_singleton.mp he]
    constructor <;> assumption

theorem named_baseTarget {e : Expr} (h : e.Named) : (baseTarget e).Named := by
  cases h with
  | subscript hvalue _ => exact hvalue
  | _ => constructor <;> assumption

section LookUp

variable (hs : s.Sound P)
include hs

theorem target_of_get? {id target : String} (h : s.bindings.get? id = some target) :
    IsTarget target ∧ MadeOf P target := by
  obtain ⟨before, after, hsplit, -⟩ := Dictionary.exists_append_of_get? h
  exact hs.targets (id, target) (hsplit ▸ List.mem_append_right _ List.mem_cons_self)

include hP

theorem gives_of_bare {id : String} (hid : IsWord id) {q : QualifiedName}
    (h : s.resolveChain [id] = some q) : s.Gives P q := by
  simp only [resolveChain] at h
  split at h
  · rename_i hknown
    cases h
    refine ⟨.pair hs.nonempty hid, ?_, fun scope n hq _ => ?_⟩
    · exact List.forall_mem_cons.mpr
        ⟨hs.module, List.forall_mem_singleton.mpr (hP.madeOf_of_isWord hid)⟩
    · obtain ⟨rfl, rfl⟩ := QualifiedName.pair_inj hq
      exact ⟨rfl, hknown⟩
  · split at h
    · rename_i target htarget
      obtain ⟨⟨r, hr, hfull⟩, hchars⟩ := target_of_get? hs htarget
      rw [← hfull, hr.ofDotted_fullName] at h
      split at h
      · cases h
      · rename_i hfirst
        cases h
        rw [← hfull] at hchars
        refine ⟨hr, Text.Dotted.madeOf_of_join hchars, fun scope n hq htyping => ?_⟩
        rw [hq] at hfirst
        exact absurd htyping hfirst
    · split at h
      · cases h
      · cases h
        refine ⟨.single hid, List.forall_mem_singleton.mpr (hP.madeOf_of_isWord hid), ?_⟩
        intro scope n hq
        cases congrArg QualifiedName.parts hq

omit hs in
/-- The look-up of a member behind the segments of what its scope stands for. -/
theorem gives_of_member {front : List String} (hne : front ≠ []) (hempty : join front ≠ "")
    (hchars : ∀ part ∈ front, MadeOf P part) {second : String} {rest : List String}
    (hwords : ∀ id ∈ second :: rest, IsWord id)
    (htyping : join (front ++ second :: rest).dropLast ∉ typingModules) :
    s.Gives P (.pair (join (front ++ second :: rest).dropLast)
      ((front ++ second :: rest).getLastD "")) := by
  have hscope : (front ++ second :: rest).dropLast = front ++ (second :: rest).dropLast :=
    List.dropLast_append_of_ne_nil (List.cons_ne_nil _ _)
  have hlast : IsWord ((front ++ second :: rest).getLastD "") := by
    have hne := List.cons_ne_nil second rest
    rw [List.getLastD_eq_getLast?, List.getLast?_append_of_ne_nil _ hne,
      List.getLast?_eq_some_getLast hne]
    exact hwords _ (List.getLast_mem hne)
  have hparts : ∀ part ∈ front ++ (second :: rest).dropLast, MadeOf P part :=
    List.forall_mem_append.mpr ⟨hchars, fun part hpart =>
      hP.madeOf_of_isWord (hwords part (List.dropLast_subset _ hpart))⟩
  refine ⟨.pair ?_ hlast, ?_, fun scope n hq hmem => ?_⟩
  · rw [hscope]
    exact Text.Dotted.join_append_ne_empty hne hempty _
  · refine List.forall_mem_cons.mpr ⟨?_, List.forall_mem_singleton.mpr (hP.madeOf_of_isWord hlast)⟩
    rw [hscope]
    exact Text.Dotted.madeOf_join hP.point hparts
  · obtain ⟨rfl, -⟩ := QualifiedName.pair_inj hq
    exact absurd hmem htyping

theorem gives_of_chain {head second : String} {rest : List String}
    (hids : ∀ id ∈ head :: second :: rest, IsWord id) {q : QualifiedName}
    (h : s.resolveChain (head :: second :: rest) = some q) : s.Gives P q := by
  obtain ⟨hhead, hwords⟩ := List.forall_mem_cons.mp hids
  rw [resolveChain] at h
  cases hget : s.bindings.get? head with
  | none =>
    simp only [hget] at h
    split at h
    · cases h
    · rename_i htyping
      cases h
      refine gives_of_member hP (List.cons_ne_nil _ _) ?_
        (List.forall_mem_singleton.mpr (hP.madeOf_of_isWord hhead)) hwords htyping
      rw [Text.Dotted.join_singleton]
      exact hhead.nonempty
  | some target =>
    simp only [hget] at h
    split at h
    · cases h
    · rename_i htyping
      cases h
      obtain ⟨⟨r, hr, hfull⟩, hchars⟩ := target_of_get? hs hget
      refine gives_of_member hP (Text.Dotted.segments_ne_nil _) ?_
        (Text.Dotted.madeOf_segments hchars) hwords htyping
      rw [Text.Dotted.join_segments, ← hfull]
      exact hr.fullName_ne_empty

theorem gives_of_resolveChain {ids : List String} (hids : ∀ id ∈ ids, IsWord id)
    {q : QualifiedName} (h : s.resolveChain ids = some q) : s.Gives P q := by
  match ids with
  | [] => cases h
  | [id] => exact gives_of_bare hP hs (hids id List.mem_cons_self) h
  | head :: second :: rest => exact gives_of_chain hP hs hids h

/-- **A look-up gives canonical names.** -/
theorem gives_of_resolve {e : Expr} (he : e.Named) {q : QualifiedName}
    (h : s.resolve e = .ok (some q)) : s.Gives P q := by
  induction e using Scope.resolve.induct with
  | case1 value ih =>
    rw [resolve_text] at h
    obtain ⟨found, hread, h⟩ := except_bind_eq_ok.mp h
    cases found with
    | none => cases h
    | some e =>
      have hnamed := Annotation.named_of_expression? hread
      exact ih e.1 e.2 hnamed h
  | case2 value index argument hwrapped ih =>
    rw [resolve_argument s hwrapped] at h
    cases he with
    | subscript _ hindex => exact ih (named_argument hindex (mem_of_wrapped? hwrapped)) h
  | case3 value index hwrapped =>
    rw [resolve_missing s hwrapped] at h
    cases h
  | case4 value index hwrapped ih =>
    rw [resolve_subscripted s hwrapped] at h
    cases he with
    | subscript hvalue _ => exact ih hvalue h
  | case5 left right ihl ihr =>
    rw [resolve_union] at h
    obtain ⟨found, hleft, h⟩ := except_bind_eq_ok.mp h
    cases he with
    | union hnamedLeft hnamedRight =>
      cases found with
      | none => exact ihr hnamedRight h
      | some r =>
        cases h
        exact ihl hnamedLeft hleft
  | case6 e htext hsubscript hunion =>
    have hchain : s.resolve e = .ok (s.resolveChain e.chain) := by
      rw [resolve] <;> try assumption
      rfl
    rw [hchain] at h
    exact gives_of_resolveChain hP hs he.chain (Except.ok.inj h)

theorem gives_of_resolve? {hint : Option Expr} (he : ∀ e ∈ hint, e.Named) {q : QualifiedName}
    (h : s.resolve? hint = .ok (some q)) : s.Gives P q := by
  cases hint with
  | none => cases h
  | some e => exact gives_of_resolve hP hs (he e rfl) h

theorem gives_of_resolveBase {bases : List Expr} (hbases : ∀ e ∈ bases, e.Named)
    {q : QualifiedName} (h : s.resolveBase bases = .ok (some q)) : s.Gives P q := by
  induction bases with
  | nil => cases h
  | cons base bases ih =>
    obtain ⟨hbase, hbases⟩ := List.forall_mem_cons.mp hbases
    rw [resolveBase] at h
    split at h
    · obtain ⟨found, htarget, h⟩ := except_bind_eq_ok.mp h
      cases found with
      | none => exact ih hbases h
      | some r =>
        cases h
        exact gives_of_resolve hP hs (named_baseTarget hbase) htarget
    · exact ih hbases h

/-! ## Members -/

theorem gives_of_resolveParameters {ps : List Parameter} (hps : ∀ p ∈ ps, p.Named)
    {types : List QualifiedName} (h : s.resolveParameters ps = .ok types) :
    ∀ q ∈ types, s.Gives P q := by
  induction ps generalizing types with
  | nil =>
    cases h
    exact List.forall_mem_nil _
  | cons p ps ih =>
    obtain ⟨hp, hps⟩ := List.forall_mem_cons.mp hps
    obtain ⟨type, htype, h⟩ := except_bind_eq_ok.mp h
    obtain ⟨more, hmore, h⟩ := except_bind_eq_ok.mp h
    cases h
    refine List.forall_mem_append.mpr ⟨fun q hq => ?_, ih hps hmore⟩
    rw [Option.mem_toList.mp hq] at htype
    exact gives_of_resolve? hP hs hp.hint htype

theorem gives_of_method {parent : String} {inClass : Bool} {f : FunctionHead} (hf : f.Named)
    {m : Method String} (h : s.method parent inClass f = .ok m) : ∀ q ∈ m.types, s.Gives P q := by
  obtain ⟨returnType, hreturn, h⟩ := except_bind_eq_ok.mp h
  obtain ⟨argumentTypes, hargument, h⟩ := except_bind_eq_ok.mp h
  cases h
  refine List.forall_mem_append.mpr
    ⟨fun q hq => ?_, gives_of_resolveParameters hP hs (fun p hp => ?_) hargument⟩
  · have hq : returnType = some q := Option.mem_toList.mp hq
    exact gives_of_resolve? hP hs hf.returns (hq ▸ hreturn)
  · refine hf.parameters p (mem_all_of_mem_signatureParameters ?_)
    split at hp
    · exact List.mem_of_mem_drop hp
    · exact hp

theorem gives_of_origin {stmt : Stmt} (hstmt : stmt.Named) {o : Origin} (ho : Contributes stmt o)
    {q : QualifiedName} (h : o.type s = some q) : s.Gives P q := by
  have hresolve : s.resolve? o.hint = .ok (some q) := by
    rw [Origin.type] at h
    cases hresult : s.resolve? o.hint with
    | error fault =>
      rw [hresult] at h
      cases h
    | ok type =>
      rw [hresult] at h
      exact congrArg Except.ok h
  exact gives_of_resolve? hP hs (named_hint hstmt ho) hresolve

/-- All types that a class mentions are canonical. -/
theorem gives_of_newClass {name : String} {bases : List Expr} {body : List Stmt}
    (hbases : ∀ e ∈ bases, e.Named) (hbody : ∀ stmt ∈ body, stmt.Named) {c : Class}
    (h : (ModuleAnalysis.newClass s name bases body).result = .ok c) :
    ∀ q ∈ c.types, s.Gives P q := by
  have hplain : ∀ stmt ∈ body, PlainlyDecorated stmt := fun stmt hstmt =>
    plainlyDecorated_of_named (hbody stmt hstmt)
  have hbase := (ModuleAnalysis.newClass_ok h).2
  obtain ⟨hmethods, hproperties⟩ := ModuleAnalysis.members_ok hplain h
  refine List.forall_mem_append.mpr
    ⟨List.forall_mem_append.mpr ⟨fun q hq => ?base, fun q hq => ?property⟩, fun q hq => ?method⟩
  case base =>
    rw [Option.mem_toList.mp hq] at hbase
    exact gives_of_resolveBase hP hs hbases hbase
  case property =>
    obtain ⟨p, hp, htype⟩ := List.mem_filterMap.mp hq
    obtain ⟨r, hr, htype⟩ := Property.exists_type_of_mem_insertAll (hproperties ▸ hp) htype
    obtain ⟨o, ho, rfl⟩ := List.mem_map.mp hr
    obtain ⟨stmt, hstmt, o, ho, htype⟩ :=
      (exists_origin_iff (p := fun o => o.type s = some q) hplain).mp ⟨o, ho, htype⟩
    exact gives_of_origin hP hs (hbody stmt hstmt) ho htype
  case method =>
    obtain ⟨m, hm, hq⟩ := List.mem_flatMap.mp hq
    have himage : Except.ok m ∈ body.filterMap (s.methodOf? name) :=
      hmethods ▸ List.mem_map_of_mem hm
    obtain ⟨stmt, hstmt, hmethod⟩ := List.mem_filterMap.mp himage
    unfold methodOf? at hmethod
    split at hmethod
    · split at hmethod
      · cases hbody _ hstmt with
        | functionDef hhead _ => exact gives_of_method hP hs hhead (Option.some.inj hmethod) q hq
      · cases hmethod
    · cases hmethod

end LookUp

/-! ## Imports -/

theorem mem_segments_of_package {level : Nat} {package : List String}
    (h : s.package level = .ok package) : ∀ part ∈ package, part ∈ segments s.moduleName := by
  have hparts : ∀ part ∈ if s.isPackage then segments s.moduleName
      else (segments s.moduleName).dropLast, part ∈ segments s.moduleName := by
    split
    · exact fun _ h => h
    · exact fun _ h => List.dropLast_subset _ h
  simp only [Scope.package] at h
  generalize (if s.isPackage then segments s.moduleName
    else (segments s.moduleName).dropLast) = parts at h hparts
  split at h
  · cases h
  · cases h
    exact fun part hpart => hparts part (List.mem_of_mem_take hpart)

include hP

theorem madeOf_of_isDotted {name : String} (h : IsDotted name) : MadeOf P name := by
  rw [← Text.Dotted.join_segments name]
  exact Text.Dotted.madeOf_join hP.point fun part hpart => hP.madeOf_of_isWord (h part hpart)

theorem madeOf_sourceName (hmodule : MadeOf P s.moduleName) {source : Option String}
    (hsource : ∀ name ∈ source, IsDotted name) (level : Nat) :
    MadeOf P (s.sourceName source level) := by
  have hname : ∀ name ∈ source.toList, MadeOf P name := fun name h =>
    madeOf_of_isDotted hP (hsource name (Option.mem_toList.mp h))
  rw [sourceName]
  split
  · cases source with
    | none => exact List.forall_mem_nil P
    | some name => exact hname name List.mem_cons_self
  · split
    · rename_i package hpackage
      have hfront : ∀ part ∈ package, MadeOf P part := fun part hpart =>
        Text.Dotted.madeOf_segments hmodule part (mem_segments_of_package hpackage part hpart)
      exact Text.Dotted.madeOf_join hP.point (List.forall_mem_append.mpr ⟨hfront, hname⟩)
    · exact Text.Dotted.madeOf_join hP.point hname

/-- What an import binds stands for a canonical name. -/
theorem target_of_binding? (hmodule : MadeOf P s.moduleName) {i : Import} (hi : i.Named)
    {entry : String × String} (h : i.binding? s = some entry) :
    IsTarget entry.2 ∧ MadeOf P entry.2 := by
  cases hi with
  | @module a h' =>
    have hdotted : IsDotted a.name := h'.name
    obtain ⟨name, _ | id⟩ := a
    · cases h
      obtain ⟨rest, hsplit⟩ := Text.Dotted.segments_eq_cons name
      have hhead : IsWord (Text.Dotted.head name) := hdotted _ (hsplit ▸ List.mem_cons_self)
      exact ⟨isTarget_of_isWord hhead, hP.madeOf_of_isWord hhead⟩
    · cases h
      exact ⟨isTarget_of_isDotted hdotted, madeOf_of_isDotted hP hdotted⟩
  | @member source level a hsource h' =>
    simp only [Import.binding?] at h
    split at h
    · cases h
    · rename_i hbinds
      cases h
      rw [not_or] at hbinds
      have hname : IsWord a.name := h'.name.resolve_left hbinds.1
      rw [within]
      split
      · exact ⟨isTarget_of_isWord hname, hP.madeOf_of_isWord hname⟩
      · rename_i hne
        refine ⟨isTarget_append hne hname, ?_⟩
        exact Text.Dotted.madeOf_append (Text.Dotted.madeOf_append
          (madeOf_sourceName hP hmodule hsource level) (Text.Dotted.madeOf_point hP.point))
          (hP.madeOf_of_isWord hname)

/-- **The table of imports keeps leading to canonical names.** -/
theorem Sound.behind (hs : s.Sound P) {imports : List Import} (h : ∀ i ∈ imports, i.Named) :
    (s.behind imports).Sound P where
  nonempty := hs.nonempty
  module := hs.module
  classes := hs.classes
  targets entry hentry := by
    rcases Dictionary.mem_putAll hentry with hnew | hold
    · obtain ⟨i, hi, hbinding⟩ := List.mem_filterMap.mp hnew
      exact target_of_binding? hP hs.module (h i hi) hbinding
    · exact hs.targets entry hold

omit hP in
/-- Imports do not count for what is said of a name that is given. -/
theorem Gives.start {imports : List Import} {q : QualifiedName} (h : (s.behind imports).Gives P q) :
    s.Gives P q :=
  ⟨h.canonical, h.chars, h.typing⟩

end Scope

/-! ## Modules -/

namespace ParsedSource

variable {P : Char → Prop} (hP : AdmitsNames P) {p : ParsedSource}

/-- The identifiers of all statements are words. -/
def Named (p : ParsedSource) : Prop := ∀ stmt ∈ p.stmts, stmt.Named

/-- It is so of each module that a text is analysed as. -/
theorem exists_named_of_ofText {file name text : String} {isPackage : Bool} {m : Module}
    (h : (Module.ofText file name isPackage text).result = .ok m) :
    ∃ p : ParsedSource, p.name = name ∧ p.isPackage = isPackage ∧
      Source.Program.ofText? text.toList = some p.stmts ∧ p.Named ∧ p.module.result = .ok m := by
  obtain ⟨p, hname, hpackage, hstmts, hm⟩ := exists_of_ofText h
  exact ⟨p, hname, hpackage, hstmts, Source.named_of_program hstmts, hm⟩

theorem Named.site (h : p.Named) {site : Site} (hsite : site ∈ p.sites) : site.stmt.Named := by
  have hwhole : (Stmt.compound p.stmts).Named := .compound h
  exact hwhole.reaches (Stmt.mem_sites_iff.mp hsite).1

theorem sound_scope (hname : p.name ≠ "") (hchars : MadeOf P p.name) (h : p.Named) :
    p.scope.Sound P where
  nonempty := hname
  module := hchars
  classes c hc := by
    obtain ⟨bases, body, hmem⟩ := declares_iff.mpr hc
    cases h _ hmem with
    | classDef hname => exact hname
  targets := List.forall_mem_nil _

include hP

theorem sound_scopeAt (hname : p.name ≠ "") (hchars : MadeOf P p.name) (h : p.Named)
    (path : List Nat) : (p.scopeAt path).Sound P := by
  refine (sound_scope hname hchars h).behind hP fun i hi => ?_
  obtain ⟨stmt, hstmt, hi⟩ := List.mem_flatMap.mp hi
  obtain ⟨site, hsite, rfl⟩ := List.mem_map.mp hstmt
  exact Import.named_of_mem_ofStmt (h.site (List.mem_filter.mp hsite).1) hi

/-- All names that the analysis of a module stores are given by look-ups in it. -/
theorem gives_of_module (hname : p.name ≠ "") (hchars : MadeOf P p.name) (h : p.Named) {m : Module}
    (hm : p.module.result = .ok m) : ∀ q ∈ m.types, p.scope.Gives P q := by
  have hrecords := records_module hm
  refine List.forall_mem_append.mpr ⟨fun q hq => ?ofClass, fun q hq => ?ofFunction⟩
  case ofClass =>
    obtain ⟨c, hc, hq⟩ := List.mem_flatMap.mp hq
    obtain ⟨path, _, bases, body, hsite, hnew⟩ := hrecords.exists_classDef hc
    have hs := sound_scopeAt hP hname hchars h path
    cases h.site hsite with
    | classDef _ hbases hbody => exact (Scope.gives_of_newClass hP hs hbases hbody hnew q hq).start
  case ofFunction =>
    obtain ⟨f, hf, hq⟩ := List.mem_flatMap.mp hq
    obtain ⟨path, head, body, hsite, hmethod⟩ := hrecords.exists_functionDef hf
    have hs := sound_scopeAt hP hname hchars h path
    cases h.site hsite with
    | functionDef hhead _ => exact (Scope.gives_of_method hP hs hhead hmethod q hq).start

end ParsedSource

end ClassDiagram
