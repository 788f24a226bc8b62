import ClassDiagram.Proofs.Analysis.Visit
import ClassDiagram.Proofs.Text.Dotted
import ClassDiagram.Text.Identifier

/-!
References to classes. `Scope.RefersTo` lists the spellings by which a class of a module can be
referred to behind imports; each of them resolves to the name of the class in that module
(`resolveChain_of_refersTo`), and so does a base that is spelled so (`resolveBase_of_refersTo`). A
class with such a base is recorded with that superclass (`exists_class_of_extends`).
-/

namespace ClassDiagram

open Source (Expr Stmt)
open Text.Identifier (isIdentifier isStart isContinue)

theorem not_mem_of_isIdentifier {name : String} (h : isIdentifier name.toList = true) {c : Char}
    (hstart : isStart c = false) (hcontinue : isContinue c = false) : c ∉ name.toList := by
  intro hc
  cases hname : name.toList with
  | nil =>
    rw [hname] at hc
    exact absurd hc List.not_mem_nil
  | cons first rest =>
    rw [hname, isIdentifier, Bool.and_eq_true] at h
    rw [hname] at hc
    rcases List.mem_cons.mp hc with rfl | hc
    · rw [hstart] at h
      exact absurd h.1 (by decide)
    · rw [List.all_eq_true.mp h.2 c hc] at hcontinue
      exact absurd hcontinue (by decide)

theorem point_not_mem_of_isIdentifier {name : String} (h : isIdentifier name.toList = true) :
    '.' ∉ name.toList :=
  not_mem_of_isIdentifier h (by decide) (by decide)

theorem slash_not_mem_of_isIdentifier {name : String} (h : isIdentifier name.toList = true) :
    '/' ∉ name.toList :=
  not_mem_of_isIdentifier h (by decide) (by decide)

theorem ne_star_of_isIdentifier {name : String} (h : isIdentifier name.toList = true) :
    name ≠ "*" := by
  rintro rfl
  exact absurd h (by decide)

namespace QualifiedName

theorem ofDotted_append {scope name : String} (hscope : scope ≠ "") (h : '.' ∉ name.toList) :
    ofDotted (scope ++ "." ++ name) = pair scope name := by
  rw [ofDotted, Text.Dotted.splitLast_append h]
  exact if_neg hscope

end QualifiedName

namespace Scope

/-- The chains of identifiers that refer to the class `c` of the module `m` behind imports. -/
inductive RefersTo (s : Scope) (imports : List Import) (m c : String) : List String → Prop
  /-- The name of a class of the module itself. -/
  | own (hm : m = s.moduleName) (hc : c ∈ s.classes) : RefersTo s imports m c [c]
  /-- A name that `from m import c` or `from m import c as x` binds. -/
  | member {source : Option String} {level : Nat} {bound : Option String}
      (hsource : s.sourceName source level = m)
      (hbound : s.BoundBy imports (.member source level ⟨c, bound⟩) (bound.getD c))
      (hlocal : bound.getD c ∉ s.classes) : RefersTo s imports m c [bound.getD c]
  /-- The class in a module that `import m` makes known by its full name. -/
  | dotted (hbound : s.BoundBy imports (.module ⟨m, none⟩) (Text.Dotted.head m)) :
    RefersTo s imports m c (Text.Dotted.segments m ++ [c])
  /-- The class in a module that `import m as a` names. -/
  | renamed {a : String} (hbound : s.BoundBy imports (.module ⟨m, some a⟩) a) :
    RefersTo s imports m c [a, c]
  /-- The class in a module that `from p import q` or `from p import q as a` names. -/
  | submodule {source : Option String} {level : Nat} {q : String} {bound : Option String}
      (hq : isIdentifier q.toList = true) (hsource : within (s.sourceName source level) q = m)
      (htop : s.sourceName source level = "" → source = none)
      (hbound : s.BoundBy imports (.member source level ⟨q, bound⟩) (bound.getD q)) :
    RefersTo s imports m c [bound.getD q, c]

theorem binding?_member (s : Scope) {source : Option String} {level : Nat} {name : String}
    {bound : Option String} (hname : isIdentifier name.toList = true)
    (hsource : s.sourceName source level = "" → source = none) :
    Import.binding? s (.member source level ⟨name, bound⟩)
      = some (bound.getD name, within (s.sourceName source level) name) := by
  have hbinds : ¬ (name = "*" ∨ (s.sourceName source level = "" ∧ source ≠ none)) := by
    rintro (hstar | ⟨hempty, hne⟩)
    · exact ne_star_of_isIdentifier hname hstar
    · exact hne (hsource hempty)
  exact if_neg hbinds

/-- A chain of at least two identifiers that spells out a module and a name in it. -/
theorem resolveChain_scoped {s : Scope} {m c head target second : String} {rest : List String}
    (hm : m ∉ typingModules) (hget : s.bindings.get? head = some target)
    (h : Text.Dotted.segments target ++ second :: rest = Text.Dotted.segments m ++ [c]) :
    s.resolveChain (head :: second :: rest) = some (.pair m c) := by
  simp only [resolveChain, hget, h]
  rw [List.dropLast_concat, Text.Dotted.join_segments, if_neg hm]
  simp

/-- **References resolve to their target.** -/
theorem resolveChain_of_refersTo {s : Scope} {imports : List Import} {m c : String}
    {ids : List String} (h : s.RefersTo imports m c ids) (hc : isIdentifier c.toList = true)
    (hne : m ≠ "") (hm : m ∉ typingModules) :
    (s.behind imports).resolveChain ids = some (.pair m c) := by
  cases h with
  | own hself hlocal =>
    rw [resolveChain, if_pos (show c ∈ (s.behind imports).classes from hlocal), hself]
    rfl
  | @member source level bound hsource hbound hlocal =>
    have hbinding : Import.binding? s (.member source level ⟨c, bound⟩)
        = some (bound.getD c, within (s.sourceName source level) c) :=
      s.binding?_member hc fun h => absurd (hsource.symm.trans h) hne
    rw [hsource, within, if_neg hne] at hbinding
    have hget := get?_behind_of_boundBy s hbound hbinding
    rw [resolveChain, if_neg (show bound.getD c ∉ (s.behind imports).classes from hlocal), hget]
    simp only [QualifiedName.ofDotted_append hne (point_not_mem_of_isIdentifier hc)]
    exact if_neg hm
  | dotted hbound =>
    have hget := get?_behind_of_boundBy s hbound rfl
    obtain ⟨rest, hrest⟩ := Text.Dotted.segments_eq_cons m
    obtain ⟨second, more, hmore⟩ := List.exists_cons_of_ne_nil
      (List.append_ne_nil_of_right_ne_nil rest (List.cons_ne_nil c []))
    rw [hrest, List.cons_append, hmore]
    refine resolveChain_scoped hm hget ?_
    rw [Text.Dotted.segments_head, hrest]
    exact congrArg (Text.Dotted.head m :: ·) hmore.symm
  | renamed hbound =>
    have hget := get?_behind_of_boundBy s hbound rfl
    exact resolveChain_scoped hm hget rfl
  | submodule hq hsource htop hbound =>
    have hget := get?_behind_of_boundBy s hbound (s.binding?_member hq htop)
    exact resolveChain_scoped hm hget (by rw [hsource])

theorem resolve_of_chain (s : Scope) {e : Expr} (h : e.chain ≠ []) :
    s.resolve e = .ok (s.resolveChain e.chain) := by
  cases e with
  | name | member =>
    rw [resolve]
    · rfl
    all_goals (intros; rename_i h; cases h)
  | _ => exact absurd rfl h

/-- A first base that resolves, and is one to draw, is the superclass. -/
theorem resolveBase_of_resolve {s : Scope} {base : Expr} {q : QualifiedName}
    (hdrawn : isDrawnBase (baseTarget base) = true)
    (h : s.resolve (baseTarget base) = .ok (some q)) (bases : List Expr) :
    s.resolveBase (base :: bases) = .ok (some q) := by
  rw [resolveBase]
  simp only [hdrawn, if_true, h]
  rfl

/-- The superclass is the class that the first base refers to, with or without arguments. -/
theorem resolveBase_of_refersTo {s : Scope} {imports : List Import} {m c : String}
    {reference base : Expr} (h : s.RefersTo imports m c reference.chain)
    (hbase : base = reference ∨ ∃ index, base = .subscript reference index)
    (hdrawn : ∀ id ∈ reference.chain.getLast?, id ∉ ignoredBases)
    (hc : isIdentifier c.toList = true) (hne : m ≠ "") (hm : m ∉ typingModules)
    (bases : List Expr) :
    (s.behind imports).resolveBase (base :: bases) = .ok (some (.pair m c)) := by
  have hresolved := resolveChain_of_refersTo h hc hne hm
  have hchain : reference.chain ≠ [] := by
    intro hnil
    rw [hnil] at hresolved
    cases hresolved
  have htarget : baseTarget base = reference := by
    rcases hbase with rfl | ⟨index, rfl⟩
    · cases base with
      | subscript => exact absurd rfl hchain
      | _ => rfl
    · rfl
  have hisDrawn : isDrawnBase reference = true := by
    rw [isDrawnBase, lastIdentifier, List.getLast?_eq_some_getLast hchain]
    exact decide_eq_true (hdrawn _ (List.getLast?_eq_some_getLast hchain))
  rw [← htarget] at hisDrawn
  refine resolveBase_of_resolve hisDrawn ?_ bases
  rw [htarget, resolve_of_chain _ hchain, hresolved]

end Scope

namespace ParsedSource

/-- A class of the module, wherever it stands, has a first base that refers to the class `c` of the
module `m` by one of the spellings of `Scope.RefersTo`, with or without arguments. -/
inductive Extends (p : ParsedSource) (d m c : String) : Prop
  | intro {before after : List Stmt} {base reference : Expr} {bases : List Expr} {body : List Stmt}
      (place : p.visited = before ++ .classDef d (base :: bases) body :: after)
      (spelling : base = reference ∨ ∃ index, base = .subscript reference index)
      (refers : p.scope.RefersTo (before.flatMap Import.ofStmt) m c reference.chain)
      (drawn : ∀ id ∈ reference.chain.getLast?, id ∉ Scope.ignoredBases)

theorem exists_class_of_extends {p : ParsedSource} {m : Module} {d source c : String}
    (h : p.module.result = .ok m) (hextends : p.Extends d source c)
    (hc : isIdentifier c.toList = true) (hne : source ≠ "")
    (hsource : source ∉ Scope.typingModules) :
    ∃ k ∈ m.classes, k.name = d ∧ k.base = some (.pair source c) := by
  obtain ⟨place, spelling, refers, drawn⟩ := hextends
  obtain ⟨k, hk, hnew⟩ := mem_classes h place
  obtain ⟨hname, hbase⟩ := ModuleAnalysis.newClass_ok hnew
  rw [Scope.resolveBase_of_refersTo refers spelling drawn hc hne hsource] at hbase
  exact ⟨k, hk, hname, (Except.ok.inj hbase).symm⟩

end ParsedSource

end ClassDiagram
