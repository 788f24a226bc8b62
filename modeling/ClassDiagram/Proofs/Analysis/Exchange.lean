import ClassDiagram.Proofs.Analysis.Findings

/-!
Definitions in another order. A definition binds no name that a look-up goes by, and the classes of
a module are known from its start, in any order (`foundAll_classes`). So neighbouring definitions
find the same whichever comes first, and exchanging them exchanges no more than their elements
(`definitions_exchange`).
-/

namespace ClassDiagram

open Source (Expr FunctionHead Stmt)

namespace Source.Stmt

/-- A statement that defines a class or a function. -/
inductive IsDefinition : Stmt → Prop
  | classDef (name : String) (bases : List Expr) (body : List Stmt) :
    IsDefinition (.classDef name bases body)
  | functionDef (head : FunctionHead) (body : List Stmt) : IsDefinition (.functionDef head body)

variable {x y : Stmt}

theorem IsDefinition.imports (h : x.IsDefinition) : Import.ofStmt x = [] := by
  cases h <;> rfl

theorem IsDefinition.modular (h : x.IsDefinition) : x.modular = [x] := by
  cases h <;> rfl

theorem modularList_definitions (hx : x.IsDefinition) (hy : y.IsDefinition)
    (before after : List Stmt) : modular.modularList (before ++ x :: y :: after) =
      modular.modularList before ++ x :: y :: modular.modularList after := by
  simp only [modularList_eq_flatMap, List.flatMap_append, List.flatMap_cons, hx.modular, hy.modular,
    List.cons_append, List.nil_append]

end Source.Stmt

namespace Scope

variable {s : Scope}

/-! ## The classes known from the start -/

theorem resolveChain_classes {classes : List String} (h : ∀ n, n ∈ classes ↔ n ∈ s.classes)
    (ids : List String) : ({ s with classes } : Scope).resolveChain ids = s.resolveChain ids := by
  match ids with
  | [] => rfl
  | [id] => simp only [resolveChain, h]
  | head :: second :: rest => rfl

theorem behind_classes (s : Scope) (classes : List String) (imports : List Import) :
    ({ s with classes } : Scope).behind imports = { s.behind imports with classes } := by
  have hbinding : ∀ i : Import, i.binding? { s with classes } = i.binding? s :=
    fun i => i.binding?_congr (by rfl) (by rfl)
  simp only [behind, bind, hbinding]

/-- The order of the classes that are known from the start does not count. -/
theorem foundAll_classes {classes : List String} (h : ∀ n, n ∈ classes ↔ n ∈ s.classes)
    (stmts : List Stmt) : ({ s with classes } : Scope).foundAll stmts = s.foundAll stmts := by
  refine foundAll_congr (by rfl) (by rfl) ?_
  intro before stmt after _ e _
  refine agree_of_mentions fun ids _ => ?_
  rw [behind_classes]
  exact resolveChain_classes (s := s.behind (before.flatMap Import.ofStmt)) h ids

/-! ## Definitions -/

/-- Two definitions are looked at in one scope, that behind the imports before them. -/
theorem foundAll_definitions (s : Scope) {x y : Stmt} (hx : x.IsDefinition) (hy : y.IsDefinition)
    (before after : List Stmt) : s.foundAll (before ++ x :: y :: after) =
      s.foundAll before >>= fun first =>
        (s.behind (before.flatMap Import.ofStmt)).found x >>= fun f =>
        (s.behind (before.flatMap Import.ofStmt)).found y >>= fun g =>
        (s.behind (before.flatMap Import.ofStmt)).foundAll after >>= fun last =>
        pure (first ++ (f ++ (g ++ last))) := by
  have hbehind : ∀ t : Scope, t.behind [] = t := fun t => rfl
  simp only [foundAll_append, foundAll_cons, hx.imports, hy.imports, hbehind, bind_assoc, pure_bind]

end Scope

/-! ## Trees -/

/-- Lists of named items that differ in the order of two neighbours: items of these names, the first
of which has this place. -/
def ExchangedAt {α : Type} (name : α → String) (place : Nat) (x y : String) (xs ys : List α) :
    Prop :=
  ∃ before a b after, before.length = place ∧ name a = x ∧ name b = y ∧
    xs = before ++ a :: b :: after ∧ ys = before ++ b :: a :: after

/-- Trees that differ in the order of the elements of two definitions. These stand behind the
elements of the statements before; a class and a function stand in different lists. -/
def Module.Exchanged (before : List Stmt) : Stmt → Stmt → Module → Module → Prop
  | .classDef x .., .classDef y .., m, n => n = { m with classes := n.classes } ∧
    ExchangedAt Class.name (ModuleAnalysis.classNames before).length x y m.classes n.classes
  | .functionDef f _, .functionDef g _, m, n => n = { m with methods := n.methods } ∧
    ExchangedAt (·.header.name) (Scope.functionNames before).length f.name g.name
      m.methods n.methods
  | _, _, m, n => n = m

/-- Each definition adds one element to the list of its kind. -/
theorem ParsedSource.exchanged_extend (p : ParsedSource) {before : List Stmt} {x y : Stmt}
    (hx : x.IsDefinition) (hy : y.IsDefinition) {s t : Scope} {first f g : Findings}
    (hfirst : s.foundAll before = .ok first) (hf : t.found x = .ok f) (hg : t.found y = .ok g)
    (last : Findings) :
    Module.Exchanged before x y (p.bare.extend (first ++ (f ++ (g ++ last))))
      (p.bare.extend (first ++ (g ++ (f ++ last)))) := by
  obtain ⟨hclasses, hmethods⟩ := Scope.names_of_foundAll hfirst
  cases hx with
  | classDef =>
    obtain ⟨c, hc, rfl⟩ := Scope.found_classDef hf
    cases hy with
    | classDef =>
      obtain ⟨d, hd, rfl⟩ := Scope.found_classDef hg
      refine ⟨rfl, first.classes, c, d, last.classes, ?_, hc, hd, rfl, rfl⟩
      rw [← hclasses, List.length_map]
    | functionDef =>
      obtain ⟨d, -, rfl⟩ := Scope.found_functionDef hg
      rfl
  | functionDef =>
    obtain ⟨c, hc, rfl⟩ := Scope.found_functionDef hf
    cases hy with
    | classDef =>
      obtain ⟨d, -, rfl⟩ := Scope.found_classDef hg
      rfl
    | functionDef =>
      obtain ⟨d, hd, rfl⟩ := Scope.found_functionDef hg
      refine ⟨rfl, first.methods, c, d, last.methods, ?_, hc, hd, rfl, rfl⟩
      rw [← hmethods, List.length_map]

section Modules

variable (name : String) (isPackage : Bool) (before after : List Stmt) {x y : Stmt}

theorem exchanged_of_ok (hx : x.IsDefinition) (hy : y.IsDefinition) {m : Module}
    (h : (ParsedSource.mk name isPackage (before ++ x :: y :: after)).module.result = .ok m) :
    ∃ n, (ParsedSource.mk name isPackage (before ++ y :: x :: after)).module.result = .ok n ∧
      Module.Exchanged (Stmt.modular.modularList before) x y m n := by
  -- the classes known from the start are the same, in another order
  have hclasses : ∀ n, n ∈ ModuleAnalysis.classNames (before ++ y :: x :: after) ↔
      n ∈ ModuleAnalysis.classNames (before ++ x :: y :: after) := fun n =>
    ((List.Perm.swap x y after).append_left before).filterMap _ |>.mem_iff
  obtain ⟨all, hall, rfl⟩ := ParsedSource.module_eq_ok_iff.mp h
  rw [ParsedSource.visited, Stmt.modularList_definitions hx hy,
    Scope.foundAll_definitions _ hx hy] at hall
  obtain ⟨first, hfirst, hall⟩ := except_bind_eq_ok.mp hall
  obtain ⟨f, hf, hall⟩ := except_bind_eq_ok.mp hall
  obtain ⟨g, hg, hall⟩ := except_bind_eq_ok.mp hall
  obtain ⟨last, hlast, hall⟩ := except_bind_eq_ok.mp hall
  cases hall
  refine ⟨_, ParsedSource.module_eq_ok_iff.mpr ⟨first ++ (g ++ (f ++ last)), ?_, rfl⟩,
    ParsedSource.exchanged_extend _ hx hy hfirst hf hg last⟩
  rw [ParsedSource.visited, Stmt.modularList_definitions hy hx]
  refine (Scope.foundAll_classes (s := ParsedSource.scope ⟨name, isPackage, _⟩) hclasses _).trans ?_
  rw [Scope.foundAll_definitions _ hy hx, hfirst, hg, hf, hlast]
  rfl

/-- **The order of definitions does not count.** Exchanging two neighbouring definitions of a module
exchanges their elements if these are of one kind, and changes nothing else. -/
theorem definitions_exchange (hx : x.IsDefinition) (hy : y.IsDefinition) :
    (Succeeds (ParsedSource.mk name isPackage (before ++ x :: y :: after)).module.result ↔
      Succeeds (ParsedSource.mk name isPackage (before ++ y :: x :: after)).module.result) ∧
    ∀ m, (ParsedSource.mk name isPackage (before ++ x :: y :: after)).module.result = .ok m →
      ∃ n, (ParsedSource.mk name isPackage (before ++ y :: x :: after)).module.result = .ok n ∧
        Module.Exchanged (Stmt.modular.modularList before) x y m n := by
  refine ⟨⟨?_, ?_⟩, fun m h => exchanged_of_ok name isPackage before after hx hy h⟩
  · rintro ⟨m, h⟩
    obtain ⟨n, hn, -⟩ := exchanged_of_ok name isPackage before after hx hy h
    exact ⟨n, hn⟩
  · rintro ⟨m, h⟩
    obtain ⟨n, hn, -⟩ := exchanged_of_ok name isPackage before after hy hx h
    exact ⟨n, hn⟩

end Modules

/-- A class whose base may be defined behind it. -/
def verse : Stmt := .classDef "Verse" [.name "Refrain"] []

def refrain : Stmt := .classDef "Refrain" [] []

theorem definitions_exchange_verse :
    verse.IsDefinition ∧ refrain.IsDefinition ∧
    ∃ m n, (ParsedSource.mk "song" false
        [.compound [.classDef "Title" [] []], verse, refrain]).module.result = .ok m ∧
      (ParsedSource.mk "song" false
        [.compound [.classDef "Title" [] []], refrain, verse]).module.result = .ok n ∧
      n = { m with classes := n.classes } ∧
      ExchangedAt Class.name 1 "Verse" "Refrain" m.classes n.classes := by
  have hverse : verse.IsDefinition := .classDef ..
  have hrefrain : refrain.IsDefinition := .classDef ..
  have hok : Succeeds (ParsedSource.mk "song" false
      [.compound [.classDef "Title" [] []], verse, refrain]).module.result := by
    refine ParsedSource.succeeds_of_no_hints ?_
    rintro stmt (_ | ⟨_, _ | ⟨_, _ | ⟨_, h⟩⟩⟩)
    · rfl
    · rfl
    · rfl
    · cases h
  obtain ⟨m, hm⟩ := hok
  obtain ⟨n, hn, hexchanged⟩ := (definitions_exchange "song" false
    [.compound [.classDef "Title" [] []]] [] hverse hrefrain).2 m hm
  exact ⟨hverse, hrefrain, m, n, hm, hn, hexchanged⟩

end ClassDiagram
