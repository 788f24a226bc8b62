import ClassDiagram.Proofs.Diagram.CrossReference

/-!
Which classes a module knows by their bare names. All class statements of a module are recorded and
drawn, but from the start the module knows only those that are direct statements of it. Their names
lead to their nodes; the name of a class in a compound statement does so only if an import binds
it to that class (`recorded_class_known_iff`), and stands for a name of unknown origin if no import
binds it.
-/

namespace ClassDiagram

open Source (Expr Stmt)

namespace Scope

/-- An import binds a name to the class of that name in the module itself. -/
def BindsOwn (s : Scope) (n : String) : Prop :=
  s.moduleName ∉ typingModules ∧
    ∃ target, s.bindings.get? n = some target ∧ QualifiedName.ofDotted target = .pair s.moduleName n

theorem resolve_name (s : Scope) (n : String) :
    s.resolve (.name n) = .ok (s.resolveChain [n]) :=
  resolve_of_chain s (List.cons_ne_nil n [])

/-- A bare name is that of a class of the module just if the module knows the class from the start
or by an import. -/
theorem resolve_name_eq_own_iff (s : Scope) (n : String) :
    s.resolve (.name n) = .ok (some (.pair s.moduleName n)) ↔ n ∈ s.classes ∨ s.BindsOwn n := by
  rw [resolve_name, Except.ok.injEq, resolveChain, BindsOwn]
  by_cases hknown : n ∈ s.classes
  · simp only [hknown, if_true, true_or]
  · simp only [hknown, if_false, false_or]
    cases s.bindings.get? n with
    | none =>
      have hsingle : QualifiedName.single n ≠ .pair s.moduleName n := fun h => by
        cases congrArg QualifiedName.parts h
      simp [hsingle]
    | some target =>
      simp only [Option.some.injEq, exists_eq_left', ite_eq_iff, reduceCtorEq, and_false, false_or]
      refine and_congr_left fun h => ?_
      rw [h]
      rfl

theorem resolve_name_of_unbound {s : Scope} {n : String} (hknown : n ∉ s.classes)
    (hbound : s.bindings.get? n = none) : s.resolve (.name n) =
      .ok (if n ∈ builtins ∨ n ∈ typingNames then none else some (.single n)) := by
  rw [resolve_name, resolveChain, if_neg hknown, hbound]

end Scope

namespace ParsedSource

/-- What names refer to behind the first statements of a module. -/
def scopeBehind (p : ParsedSource) (before : List Stmt) : Scope :=
  p.scope.behind (before.flatMap Import.ofStmt)

theorem declares_iff {p : ParsedSource} {c : String} : p.Declares c ↔ c ∈ p.scope.classes := by
  show _ ↔ c ∈ p.stmts.filterMap _
  rw [List.mem_filterMap]
  constructor
  · rintro ⟨bases, body, h⟩
    exact ⟨_, h, rfl⟩
  · rintro ⟨stmt, hstmt, h⟩
    cases stmt with
    | classDef name bases body =>
      cases h
      exact ⟨bases, body, hstmt⟩
    | _ => cases h

end ParsedSource

open Diagram

/-- A bare name leads elsewhere than the name in a module: its identifier is shorter. -/
theorem ofName_single_ne_pair {scope : String} (h : scope ≠ "") (name : String) :
    NodeId.ofName (.single name) ≠ NodeId.ofName (.pair scope name) := by
  have hsingle : NodeId.ofName (.single name) = NodeId.within "" name := rfl
  have hpair : NodeId.ofName (.pair scope name) = NodeId.within scope name :=
    NodeId.within_within_empty scope name
  intro heq
  rw [hsingle, hpair, ← String.toList_inj, NodeId.toList_within_empty, NodeId.toList_within,
    if_neg h] at heq
  have hlength := congrArg List.length heq
  rw [List.length_append, List.length_cons] at hlength
  omega

/-- **Recorded classes are known if they are declared.** In a class statement of the module, the
bare name of a recorded class leads to the class just if the class is a direct statement of the
module or an import binds the name to it. The node of the class is drawn anyway. The edge to the
superclass goes where the name leads; of a name that no import binds either, nothing is known of
its origin, and its edge misses the node. -/
theorem recorded_class_known_iff {p : ParsedSource} {m : Module} (h : p.module.result = .ok m)
    {before after : List Stmt} {d : String} {bases : List Expr} {body : List Stmt}
    (hplace : p.visited = before ++ .classDef d bases body :: after)
    {c : Class} (hc : c ∈ m.classes) :
    NodeId.ofName (.pair p.name c.name) ∈ (moduleCluster "" 0 m).nodes.map Node.id ∧
      ((p.scopeBehind before).resolve (.name c.name) = .ok (some (.pair p.name c.name)) ↔
        p.Declares c.name ∨ (p.scopeBehind before).BindsOwn c.name) ∧
      (∀ q more, bases = .name c.name :: more → c.name ∉ Scope.ignoredBases →
        (p.scopeBehind before).resolve (.name c.name) = .ok (some q) →
        inheritance (NodeId.ofName (.pair p.name d)) q ∈ (moduleCluster "" 0 m).edges) ∧
      (¬ p.Declares c.name → (p.scopeBehind before).bindings.get? c.name = none →
        (p.scopeBehind before).resolve (.name c.name)
            = .ok (if c.name ∈ Scope.builtins ∨ c.name ∈ Scope.typingNames then none
                else some (.single c.name)) ∧
          (p.name ≠ "" →
            NodeId.ofName (.single c.name) ≠ NodeId.ofName (.pair p.name c.name))) := by
  obtain ⟨hname, -⟩ := ParsedSource.module_ok h
  refine ⟨?node, ?known, ?edge, ?unknown⟩
  case node =>
    rw [← hname]
    exact ofName_mem_nodes_moduleCluster hc 0
  case known =>
    rw [ParsedSource.declares_iff]
    exact Scope.resolve_name_eq_own_iff _ _
  case edge =>
    rintro q more rfl hdrawn hq
    obtain ⟨k, hk, hnew⟩ := ParsedSource.mem_classes h hplace
    obtain ⟨rfl, hbase⟩ := ModuleAnalysis.newClass_ok hnew
    have hisDrawn : Scope.isDrawnBase (Scope.baseTarget (.name c.name)) = true :=
      decide_eq_true hdrawn
    have hresolved := Scope.resolveBase_of_resolve hisDrawn hq more
    have hextends : k.base = some q := Except.ok.inj (hbase.symm.trans hresolved)
    rw [← hname]
    exact inheritance_mem_edges_moduleCluster hk hextends 0
  case unknown =>
    intro hknown hbound
    rw [ParsedSource.declares_iff] at hknown
    exact ⟨Scope.resolve_name_of_unbound hknown hbound, fun hne => ofName_single_ne_pair hne _⟩

/-- A module with a class in a compound statement, and behind it one that extends the first. -/
def shed : ParsedSource where
  name := "shed"
  stmts := [.compound [.classDef "Tool" [] []], .classDef "Saw" [.name "Tool"] []]

theorem shed_visited : shed.visited =
    [.classDef "Tool" [] []] ++ .classDef "Saw" [.name "Tool"] [] :: [] := rfl

theorem shed_not_declares : ¬ shed.Declares "Tool" := by
  rw [ParsedSource.declares_iff]
  decide

theorem exists_tool :
    ∃ m, shed.module.result = .ok m ∧ ∃ c ∈ m.classes, c.name = "Tool" := by
  obtain ⟨m, hm⟩ : Succeeds shed.module.result := ParsedSource.succeeds_of_no_hints
    (List.forall_mem_cons.mpr ⟨rfl, List.forall_mem_cons.mpr ⟨rfl, List.forall_mem_nil _⟩⟩)
  have hplace : shed.visited = [] ++ .classDef "Tool" [] []
      :: [.classDef "Saw" [.name "Tool"] []] := rfl
  obtain ⟨c, hc, hnew⟩ := ParsedSource.mem_classes hm hplace
  exact ⟨m, hm, c, hc, (ModuleAnalysis.newClass_ok hnew).1⟩

theorem recorded_class_known_iff_shed :
    ∃ m, shed.module.result = .ok m ∧ (∃ c ∈ m.classes, c.name = "Tool") ∧
      NodeId.ofName (.pair "shed" "Tool") ∈ (moduleCluster "" 0 m).nodes.map Node.id ∧
      inheritance (NodeId.ofName (.pair "shed" "Saw")) (.single "Tool")
        ∈ (moduleCluster "" 0 m).edges ∧
      NodeId.ofName (.single "Tool") ≠ NodeId.ofName (.pair "shed" "Tool") := by
  obtain ⟨m, hm, c, hc, hname⟩ := exists_tool
  have hknown := recorded_class_known_iff hm shed_visited hc
  rw [hname] at hknown
  obtain ⟨hnode, -, hedge, hunknown⟩ := hknown
  obtain ⟨hresolved, hmisses⟩ := hunknown shed_not_declares rfl
  exact ⟨m, hm, ⟨c, hc, hname⟩, hnode, hedge _ [] rfl (by decide) hresolved, hmisses (by decide)⟩

/-- Not every recorded class is known by its bare name. -/
theorem compound_class_unknown :
    ¬ ∀ (p : ParsedSource) (m : Module) (before after : List Stmt) (d : String)
      (bases : List Expr) (body : List Stmt) (c : Class), p.module.result = .ok m →
      p.visited = before ++ .classDef d bases body :: after → c ∈ m.classes →
      .name c.name ∈ bases → c.name ∉ Scope.ignoredBases →
      (p.scopeBehind before).resolve (.name c.name) = .ok (some (.pair p.name c.name)) := by
  intro h
  obtain ⟨m, hm, c, hc, hname⟩ := exists_tool
  have hknown := h shed m _ _ _ _ _ c hm shed_visited hc
  rw [hname] at hknown
  have hown := hknown (List.mem_singleton_self _) (by decide)
  rcases Scope.resolve_name_eq_own_iff _ _ |>.mp hown with hdeclared | ⟨-, target, hbound, -⟩
  · exact shed_not_declares (ParsedSource.declares_iff.mpr hdeclared)
  · cases hbound

end ClassDiagram
