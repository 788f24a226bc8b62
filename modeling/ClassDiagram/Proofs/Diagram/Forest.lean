import Mathlib.Data.List.Forall2
import ClassDiagram.Diagram.Builder

/-!
The class diagram has the shape of the forest it is drawn from.

* `Module.induction`, `Cluster.induction`: what holds of a tree if it holds of all trees one level
  below holds of every tree;
* `clusters_moduleCluster`, `allNodes_eq`, `allClusters_eq`: the recursions over lists of trees are
  maps;
* `ofModules_mirrors`: clusters mirror modules one to one, in order and at every depth, and each
  holds the nodes and edges of its own module and no others.
-/

namespace ClassDiagram

/-! ## Induction over trees -/

@[elab_as_elim]
theorem Module.induction {motive : Module → Prop}
    (step : ∀ m, (∀ n ∈ m.modules, motive n) → motive m) (m : Module) : motive m := by
  refine Module.rec (motive_1 := motive) (motive_2 := fun ms => ∀ n ∈ ms, motive n)
    ?_ ?_ ?_ m
  · intro header path modules classes methods dependencies ih
    exact step _ ih
  · intro n hn
    exact absurd hn List.not_mem_nil
  · intro n ns hn hns k hk
    rcases List.mem_cons.mp hk with rfl | hk
    · exact hn
    · exact hns k hk

namespace Diagram

@[elab_as_elim]
theorem Cluster.induction {motive : Cluster → Prop}
    (step : ∀ c, (∀ d ∈ c.clusters, motive d) → motive c) (c : Cluster) : motive c := by
  refine Cluster.rec (motive_1 := motive) (motive_2 := fun cs => ∀ d ∈ cs, motive d)
    ?_ ?_ ?_ c
  · intro name attributes nodes edges clusters ih
    exact step _ ih
  · intro d hd
    exact absurd hd List.not_mem_nil
  · intro d ds hd hds k hk
    rcases List.mem_cons.mp hk with rfl | hk
    · exact hd
    · exact hds k hk

/-! ## The recursions as maps -/

theorem moduleClusters_eq_map (path : String) (level : Nat) (ms : List Module) :
    moduleCluster.moduleClusters path level ms = ms.map (moduleCluster path level) := by
  induction ms with
  | nil => rfl
  | cons m ms ih => rw [moduleCluster.moduleClusters, ih, List.map_cons]

theorem listNodes_eq_flatMap (cs : List Cluster) :
    Cluster.allNodes.listNodes cs = cs.flatMap Cluster.allNodes := by
  induction cs with
  | nil => rfl
  | cons c cs ih => rw [Cluster.allNodes.listNodes, ih, List.flatMap_cons]

theorem listEdges_eq_flatMap (cs : List Cluster) :
    Cluster.allEdges.listEdges cs = cs.flatMap Cluster.allEdges := by
  induction cs with
  | nil => rfl
  | cons c cs ih => rw [Cluster.allEdges.listEdges, ih, List.flatMap_cons]

theorem listClusters_eq_flatMap (cs : List Cluster) :
    Cluster.allClusters.listClusters cs = cs.flatMap fun c => c :: c.allClusters := by
  induction cs with
  | nil => rfl
  | cons c cs ih =>
    rw [Cluster.allClusters.listClusters, ih, List.flatMap_cons, List.cons_append]

theorem Cluster.allNodes_eq (c : Cluster) :
    c.allNodes = c.nodes ++ c.clusters.flatMap Cluster.allNodes := by
  cases c
  rw [Cluster.allNodes, listNodes_eq_flatMap]

theorem Cluster.allEdges_eq (c : Cluster) :
    c.allEdges = c.edges ++ c.clusters.flatMap Cluster.allEdges := by
  cases c
  rw [Cluster.allEdges, listEdges_eq_flatMap]

theorem Cluster.allClusters_eq (c : Cluster) :
    c.allClusters = c.clusters.flatMap fun d => d :: d.allClusters := by
  cases c
  rw [Cluster.allClusters, listClusters_eq_flatMap]

/-! ## The cluster of a module -/

section Parts

variable (path : String) (level : Nat) (m : Module)

theorem name_moduleCluster :
    (moduleCluster path level m).name = "cluster_" ++ NodeId.within path m.name := by
  cases m; rfl

theorem attributes_moduleCluster :
    (moduleCluster path level m).attributes
      = (frame m.header (NodeId.within path m.name) level).attributes := by
  cases m; rfl

theorem nodes_moduleCluster :
    (moduleCluster path level m).nodes = functionNodes (NodeId.within path m.name) m.methods
      ++ m.classes.map (classNode (NodeId.within path m.name)) := by
  cases m; rfl

theorem edges_moduleCluster :
    (moduleCluster path level m).edges
      = m.classes.flatMap (classEdges (NodeId.within path m.name)) := by
  cases m; rfl

theorem clusters_moduleCluster :
    (moduleCluster path level m).clusters
      = m.modules.map (moduleCluster (NodeId.within path m.name) (level + 1)) := by
  cases m
  rw [moduleCluster, moduleClusters_eq_map]
  rfl

end Parts

/-! ## Mirrored forests -/

/-- A list of lines has no text only if there are no members: each line has an end. -/
theorem combine_eq_empty {α : Type} (visibility : α → Visibility) (line : α → String)
    (members : List α) : Signature.combine visibility line members = "" ↔ members = [] := by
  constructor
  · intro h
    rw [← String.toList_inj, Signature.combine, String.toList_join, String.toList_empty,
      List.flatMap_eq_nil_iff] at h
    refine List.eq_nil_iff_forall_not_mem.mpr fun a ha => ?_
    have hline := h _ (List.mem_map_of_mem (Visibility.mem_sort.mpr ha))
    rw [String.toList_append, List.append_eq_nil_iff] at hline
    exact absurd hline.2 (by decide)
  · rintro rfl
    rfl

theorem methods_eq_empty {ρ : Type} (ms : List (Method ρ)) :
    Signature.methods ms = "" ↔ ms = [] :=
  combine_eq_empty _ _ ms

/-- What the cluster of a module at a path and a depth shows of the module itself. -/
structure Shows (path : String) (depth : Nat) (m : Module) (c : Cluster) : Prop where
  name : c.name = "cluster_" ++ NodeId.within path m.name
  color : c.attributes.get? "color"
    = some ("gray" ++ toString (max 40 (95 - 6 * (depth : Int))))
  /-- A node for the module if it has functions, and one for each class, in order. -/
  nodes : c.nodes =
    (if m.methods = [] then []
      else [⟨NodeId.within path m.name,
        [("label", Signature.methods m.methods), ("shape", "none")]⟩])
    ++ m.classes.map fun k =>
      ⟨NodeId.within (NodeId.within path m.name) k.name, [("label", classLabel k)]⟩
  /-- Class by class, an edge to the superclass if there is one, and one to each dependency. -/
  edges : c.edges = m.classes.flatMap fun k =>
    let tail := NodeId.within (NodeId.within path m.name) k.name
    (match k.base with
      | none => []
      | some base => [⟨tail, NodeId.ofName base, [("arrowhead", "onormal")]⟩])
    ++ k.dependencies.map fun type => ⟨tail, NodeId.ofName type, [("arrowhead", "vee")]⟩

/-- The clusters are those of the modules at a path and a depth, one to one and in order, and so
are the clusters in them at every depth below. -/
inductive Mirrors : String → Nat → List Module → List Cluster → Prop
  | nil {path : String} {depth : Nat} : Mirrors path depth [] []
  | cons {path : String} {depth : Nat} {m : Module} {c : Cluster} {ms : List Module}
      {cs : List Cluster} (own : Shows path depth m c)
      (inner : Mirrors (NodeId.within path m.name) (depth + 1) m.modules c.clusters)
      (rest : Mirrors path depth ms cs) : Mirrors path depth (m :: ms) (c :: cs)

theorem moduleCluster_shows (path : String) (depth : Nat) (m : Module) :
    Shows path depth m (moduleCluster path depth m) where
  name := name_moduleCluster path depth m
  color := by
    rw [attributes_moduleCluster, Int.mul_comm]
    rfl
  nodes := by
    rw [nodes_moduleCluster, functionNodes]
    simp only [methods_eq_empty]
    rfl
  edges := by
    rw [edges_moduleCluster]
    congr 1
    funext k
    rw [classEdges]
    cases k.base <;> rfl

theorem mirrors_map {path : String} {depth : Nat} {ms : List Module}
    (h : ∀ m ∈ ms, Mirrors (NodeId.within path m.name) (depth + 1) m.modules
      (moduleCluster path depth m).clusters) :
    Mirrors path depth ms (ms.map (moduleCluster path depth)) := by
  induction ms with
  | nil => exact .nil
  | cons m ms ih =>
    refine .cons (moduleCluster_shows path depth m) (h m List.mem_cons_self) (ih ?_)
    intro n hn
    exact h n (List.mem_cons_of_mem m hn)

theorem mirrors_clusters (m : Module) (path : String) (depth : Nat) :
    Mirrors (NodeId.within path m.name) (depth + 1) m.modules
      (moduleCluster path depth m).clusters := by
  induction m using Module.induction generalizing path depth with
  | step m ih =>
    rw [clusters_moduleCluster]
    exact mirrors_map fun n hn => ih n hn _ _

theorem moduleCluster_mirrors (path : String) (depth : Nat) (m : Module) :
    Mirrors path depth [m] [moduleCluster path depth m] :=
  mirrors_map fun n _ => mirrors_clusters n path depth

/-- **The diagram mirrors the forest.** The root holds clusters alone, one for each module; a
forest put behind another adds its clusters behind those of the other. -/
theorem ofModules_mirrors {ε : Type} (ms ns : List Module) :
    (build ms false : Logged ε Diagram).result = .ok (ofModules ms) ∧
      (ofModules ms).root.nodes = [] ∧ (ofModules ms).root.edges = [] ∧
      List.Forall₂ (fun m c => Mirrors m.path 0 [m] [c]) ms (ofModules ms).root.clusters ∧
      (ofModules (ms ++ ns)).root.clusters
        = (ofModules ms).root.clusters ++ (ofModules ns).root.clusters := by
  refine ⟨rfl, rfl, rfl, ?_, List.map_append⟩
  refine List.forall₂_map_right_iff.mpr (List.forall₂_same.mpr ?_)
  intro m _
  exact moduleCluster_mirrors m.path 0 m

end Diagram

end ClassDiagram
