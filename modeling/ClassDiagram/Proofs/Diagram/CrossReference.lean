import ClassDiagram.Proofs.Analysis.Quotation
import ClassDiagram.Proofs.Diagram.Forest
import ClassDiagram.Proofs.Diagram.NodeId

/-!
Inheritance across modules. A class whose first base refers to a class of another module is drawn
with an edge to the node of that class: what the analysis resolves and what the diagram is built of
(`mem_edges_moduleCluster`, `mem_nodes_moduleCluster`) give one identifier
(`inheritance_reaches_class`).
-/

namespace ClassDiagram

open Source (Expr Stmt)
open Diagram
open NodeId (IsSegment ofName_pair)
open Text.Identifier (isIdentifier)

/-! ## Identifiers in the cluster of a root module -/

section Root

variable {m : Module} {k : Class} (hk : k ∈ m.classes)
include hk

/-- The node of a class is where the qualified name of the class in its module leads. -/
theorem ofName_mem_nodes_moduleCluster (level : Nat) :
    NodeId.ofName (.pair m.name k.name) ∈ (moduleCluster "" level m).nodes.map Node.id := by
  rw [nodes_moduleCluster, List.map_append, List.mem_append]
  exact .inr (List.mem_map.mpr ⟨_, List.mem_map_of_mem hk, rfl⟩)

/-- The edge to the superclass of a class leaves at the node of the class. -/
theorem inheritance_mem_edges_moduleCluster {q : QualifiedName} (hbase : k.base = some q)
    (level : Nat) :
    inheritance (NodeId.ofName (.pair m.name k.name)) q ∈ (moduleCluster "" level m).edges := by
  rw [edges_moduleCluster, List.mem_flatMap]
  refine ⟨k, hk, List.mem_append_left _ ?_⟩
  rw [hbase]
  exact List.mem_singleton_self _

variable (hm : IsSegment m.name) (hname : '/' ∉ k.name.toList)
include hm hname

theorem mem_nodes_moduleCluster (level : Nat) :
    m.name ++ "|" ++ k.name ∈ (moduleCluster "" level m).nodes.map Node.id := by
  rw [← ofName_pair hm hname]
  exact ofName_mem_nodes_moduleCluster hk level

theorem mem_edges_moduleCluster {scope name : String} (hbase : k.base = some (.pair scope name))
    (hscope : IsSegment scope) (htarget : '/' ∉ name.toList) (level : Nat) :
    ⟨m.name ++ "|" ++ k.name, scope ++ "|" ++ name, [("arrowhead", "onormal")]⟩
      ∈ (moduleCluster "" level m).edges := by
  rw [← ofName_pair hm hname, ← ofName_pair hscope htarget]
  exact inheritance_mem_edges_moduleCluster hk hbase level

end Root

/-- **Inheritance reaches its class.** Whatever the spelling of the reference, the edge of a class
ends at the node of the class that its first base refers to. -/
theorem inheritance_reaches_class {ε : Type} {sources : List ParsedSource} {modules : List Module}
    (hparsed : List.Forall₂ (fun p m => p.module.result = .ok m) sources modules)
    {i j : Nat} {a b : ParsedSource} (ha : sources[i]? = some a) (hb : sources[j]? = some b)
    (hm : IsSegment a.name) (htyping : a.name ∉ Scope.typingModules) (hn : IsSegment b.name)
    {c d : String} (hc : isIdentifier c.toList = true) (hd : isIdentifier d.toList = true)
    (hdeclares : a.Declares c) (hextends : b.Extends d a.name c) :
    ∃ diagram target own, (build modules false : Logged ε Diagram).result = .ok diagram ∧
      diagram.root.clusters[i]? = some target ∧ target.name = "cluster_" ++ a.name ∧
      diagram.root.clusters[j]? = some own ∧ own.name = "cluster_" ++ b.name ∧
      ⟨b.name ++ "|" ++ d, a.name ++ "|" ++ c, [("arrowhead", "onormal")]⟩ ∈ own.edges ∧
      b.name ++ "|" ++ d ∈ own.nodes.map Node.id ∧
      a.name ++ "|" ++ c ∈ target.nodes.map Node.id := by
  have hroot : ∀ {k : Nat} {p : ParsedSource}, sources[k]? = some p → IsSegment p.name →
      ∃ m, p.module.result = .ok m ∧ m.name = p.name ∧
        (ofModules modules).root.clusters[k]? = some (moduleCluster "" 0 m) ∧
        (moduleCluster "" 0 m).name = "cluster_" ++ p.name := by
    intro k p hp hname
    obtain ⟨hk, rfl⟩ := List.getElem?_eq_some_iff.mp hp
    have hk' : k < modules.length := hparsed.length_eq ▸ hk
    have hresult : sources[k].module.result = .ok modules[k] := hparsed.get hk hk'
    have hmodule : modules[k]? = some modules[k] := List.getElem?_eq_getElem hk'
    obtain ⟨hm, hpath⟩ := ParsedSource.module_ok hresult
    refine ⟨_, hresult, hm, ?_, ?_⟩
    · show (modules.map _)[k]? = _
      rw [List.getElem?_map, hmodule, Option.map_some, hpath]
    · rw [name_moduleCluster, hm, NodeId.within_empty_of_isSegment hname]
  obtain ⟨ma, hma, hmaName, hmaCluster, hmaClusterName⟩ := hroot ha hm
  obtain ⟨mb, hmb, hmbName, hmbCluster, hmbClusterName⟩ := hroot hb hn
  obtain ⟨kc, hkc, rfl⟩ := ParsedSource.exists_class_of_declares hma hdeclares
  obtain ⟨kd, hkd, rfl, hbase⟩ :=
    ParsedSource.exists_class_of_extends hmb hextends hc hm.nonempty htyping
  have hcSlash := slash_not_mem_of_isIdentifier hc
  have hdSlash := slash_not_mem_of_isIdentifier hd
  refine ⟨_, _, _, rfl, hmaCluster, hmaClusterName, hmbCluster, hmbClusterName, ?_, ?_, ?_⟩
  · rw [← hmbName] at hn ⊢
    exact mem_edges_moduleCluster hkd hn hdSlash hbase hm hcSlash 0
  · rw [← hmbName] at hn ⊢
    exact mem_nodes_moduleCluster hkd hn hdSlash 0
  · rw [← hmaName] at hm ⊢
    exact mem_nodes_moduleCluster hkc hm hcSlash 0

/-- A module with one class. -/
def goods : ParsedSource where
  name := "shop.goods"
  stmts := [.classDef "Item" [] []]

/-- A module of the same package, with a class in a compound statement whose base is the class of
the other module with an argument and under another name. -/
def cart : ParsedSource where
  name := "shop.cart"
  stmts := [
    .importFrom (some "goods") [⟨"Item", some "Thing"⟩] 1,
    .compound [.classDef "Cart" [.subscript (.name "Thing") (.name "int")] []]]

theorem cart_extends : cart.Extends "Cart" "shop.goods" "Item" := by
  have hplace : cart.visited = [.importFrom (some "goods") [⟨"Item", some "Thing"⟩] 1]
      ++ .classDef "Cart" [.subscript (.name "Thing") (.name "int")] [] :: [] := rfl
  have hbound : cart.scope.BoundBy [.member (some "goods") 1 ⟨"Item", some "Thing"⟩]
      (.member (some "goods") 1 ⟨"Item", some "Thing"⟩) "Thing" :=
    ⟨[], [], rfl, List.forall_mem_nil _⟩
  exact .intro hplace (.inr ⟨_, rfl⟩) (.member rfl hbound (by decide)) (by decide)

theorem cart_module_ok : ∃ m, cart.module.result = .ok m :=
  ParsedSource.succeeds_of_no_hints
    (List.forall_mem_cons.mpr ⟨rfl, List.forall_mem_cons.mpr ⟨rfl, List.forall_mem_nil _⟩⟩)

theorem inheritance_reaches_class_cart :
    ∃ modules, List.Forall₂ (fun p m => p.module.result = .ok m) [goods, cart] modules ∧
      goods.Declares "Item" ∧ cart.Extends "Cart" goods.name "Item" ∧
      ∃ diagram target own, (build modules false : Logged String Diagram).result = .ok diagram ∧
        diagram.root.clusters[0]? = some target ∧ target.name = "cluster_" ++ goods.name ∧
        diagram.root.clusters[1]? = some own ∧ own.name = "cluster_" ++ cart.name ∧
        ⟨cart.name ++ "|" ++ "Cart", goods.name ++ "|" ++ "Item", [("arrowhead", "onormal")]⟩
          ∈ own.edges ∧
        cart.name ++ "|" ++ "Cart" ∈ own.nodes.map Node.id ∧
        goods.name ++ "|" ++ "Item" ∈ target.nodes.map Node.id := by
  obtain ⟨mg, hgoods⟩ : ∃ m, goods.module.result = .ok m := ⟨_, rfl⟩
  obtain ⟨mc, hcart⟩ := cart_module_ok
  have hparsed : List.Forall₂ (fun p m => p.module.result = .ok m) [goods, cart] [mg, mc] :=
    .cons hgoods (.cons hcart .nil)
  have hdeclares : goods.Declares "Item" := ⟨[], [], List.mem_singleton_self _⟩
  exact ⟨_, hparsed, hdeclares, cart_extends,
    inheritance_reaches_class hparsed rfl rfl (by decide) (by decide) (by decide) (by decide)
      (by decide) hdeclares cart_extends⟩

end ClassDiagram
