import ClassDiagram.Dependency.Summary
import ClassDiagram.Proofs.Dependency.Cycles
import ClassDiagram.Proofs.Diagram.Forest
import ClassDiagram.Proofs.Diagram.NodeId

/-!
The diagram of dependencies. It shows the frames of the class diagram, and the names that the
summary lists for a module are those that its edges lead to (`dependency_views_agree`).

An edge leaves a module by its name and arrives at the identifier of a name. These are one text just
if the name holds no slash (`within_empty_eq_self_iff`): then chains of imports are chains of edges,
and else no edge arrives where the edges of the module leave (`import_chains_linked`).
-/

namespace ClassDiagram

/-- The items of a list, each once, in the order in which they are first met in it. -/
structure FirstSeen {α : Type} [BEq α] (items distinct : List α) : Prop where
  mem : ∀ item, item ∈ distinct ↔ item ∈ items
  order : distinct.Pairwise fun a b => items.idxOf a < items.idxOf b

theorem firstSeen_eraseDups {α : Type} [BEq α] [LawfulBEq α] (items : List α) :
    FirstSeen items items.eraseDups := by
  refine ⟨fun item => List.mem_eraseDups, ?_⟩
  induction items using List.reverseRecOn with
  | nil => exact List.Pairwise.nil
  | append_singleton items a ih =>
    -- the place of an item does not change when another is put behind it
    have hkept : items.eraseDups.Pairwise fun b c =>
        (items ++ [a]).idxOf b < (items ++ [a]).idxOf c := by
      refine ih.imp_of_mem fun hb hc h => ?_
      rw [List.idxOf_append_of_mem (List.mem_eraseDups.mp hb),
        List.idxOf_append_of_mem (List.mem_eraseDups.mp hc)]
      exact h
    rw [Text.eraseDups_concat]
    split
    · exact hkept
    · rename_i ha
      refine List.pairwise_append.mpr ⟨hkept, List.pairwise_singleton _ _, fun b hb c hc => ?_⟩
      have hb := List.mem_eraseDups.mp hb
      rw [List.mem_singleton.mp hc, List.idxOf_append_of_mem hb, List.idxOf_append_of_notMem ha]
      exact Nat.lt_add_right _ (List.idxOf_lt_length_iff.mpr hb)

namespace DependencySummary

/-- The lines of a name are those of the modules of that name, in their order. -/
theorem filter_ofModules (ms : List Module) (n : String) :
    (ofModules ms).filter (·.name = n) = (ms.filter (·.name = n)).map ofModule := by
  rw [ofModules, List.filter_map, ← Text.filter_sortBy Module.name ms n]
  rfl

end DependencySummary

namespace Diagram

/-- A cluster with its name and its attributes alone. -/
def Cluster.emptied (c : Cluster) : Cluster where
  name := c.name
  attributes := c.attributes

theorem emptied_moduleCluster (m : Module) :
    (moduleCluster m.path 0 m).emptied = frame m.header (NodeId.within m.path m.name) 0 := by
  rw [Cluster.emptied, name_moduleCluster, attributes_moduleCluster]
  rfl

theorem allNodes_ofDependencies (ms : List Module) : (ofDependencies ms).root.allNodes = [] := by
  rw [Cluster.allNodes_eq]
  show [] ++ List.flatMap _ (ms.map _) = []
  rw [List.nil_append, List.flatMap_map, List.flatMap_eq_nil_iff]
  intro m _
  rw [Cluster.allNodes_eq]
  rfl

/-- **The diagram of dependencies, the class diagram and the summary agree.** Its clusters are those
of the class diagram with nothing in them, its edges lead from each module to the names that it
depends on, and these are the names that the summary lists for the module. -/
theorem dependency_views_agree {ε : Type} (ms : List Module) :
    ∃ bare full : Diagram, (build ms true : Logged ε Diagram).result = .ok bare ∧
      (build ms false : Logged ε Diagram).result = .ok full ∧
      bare.root.allNodes = [] ∧
      List.Forall₂ (fun m c => c.name = "cluster_" ++ NodeId.within m.path m.name)
        ms bare.root.clusters ∧
      bare.root.clusters = full.root.clusters.map Cluster.emptied ∧
      ∃ targets : Module → List String, (∀ m, FirstSeen m.dependencyNames (targets m)) ∧
        bare.root.edges = ms.flatMap (fun m =>
          (targets m).map fun name => ⟨m.name, NodeId.within "" name, []⟩) ∧
        ∀ n, List.Forall₂ (fun m line => ∀ name, name ∈ targets m ↔ name ∈ line.dependencies)
          (ms.filter (·.name = n)) ((DependencySummary.ofModules ms).filter (·.name = n)) := by
  refine ⟨ofDependencies ms, ofModules ms, rfl, rfl, allNodes_ofDependencies ms, ?names, ?frames,
    fun m => m.dependencyNames.eraseDups, fun m => firstSeen_eraseDups _, rfl, fun n => ?lines⟩
  case names =>
    refine List.forall₂_map_right_iff.mpr (List.forall₂_same.mpr fun m _ => ?_)
    rfl
  case frames =>
    show ms.map _ = (ms.map _).map _
    rw [List.map_map]
    exact List.map_congr_left fun m _ => (emptied_moduleCluster m).symm
  case lines =>
    rw [DependencySummary.filter_ofModules]
    refine List.forall₂_map_right_iff.mpr (List.forall₂_same.mpr fun m _ name => ?_)
    exact List.mem_eraseDups.trans Text.mem_alphabetical.symm

/-! ## Chains of imports -/

open Dependency (DependsOn)

theorem slash_not_mem_within (path name : String) : '/' ∉ (NodeId.within path name).toList := by
  rw [NodeId.within, String.toList_ofList, NodeId.encode, List.mem_map]
  rintro ⟨c, -, hc⟩
  rw [NodeId.separator] at hc
  split at hc
  · exact absurd hc (by decide)
  · contradiction

theorem within_empty_eq_self_iff {name : String} :
    NodeId.within "" name = name ↔ '/' ∉ name.toList := by
  constructor
  · intro h
    rw [← h]
    exact slash_not_mem_within "" name
  · intro h
    rw [← String.toList_inj, NodeId.toList_within_empty, NodeId.encode_of_not_mem h]

theorem mem_dependencyEdges {m : Module} {e : Edge} :
    e ∈ dependencyEdges m ↔
      ∃ name ∈ m.dependencyNames, e = ⟨m.name, NodeId.within "" name, []⟩ := by
  simp only [dependencyEdges, List.mem_map, List.mem_eraseDups, eq_comm]

theorem mem_edges_ofDependencies {ms : List Module} {e : Edge} :
    e ∈ (ofDependencies ms).root.edges ↔ ∃ m ∈ ms, e ∈ dependencyEdges m :=
  List.mem_flatMap

/-- An edge between two identifiers in the diagram of dependencies. -/
def Linked (ms : List Module) (a b : String) : Prop :=
  ⟨a, b, []⟩ ∈ (ofDependencies ms).root.edges

theorem linked_iff {ms : List Module} {a b : String} :
    Linked ms a b ↔
      ∃ m ∈ ms, m.name = a ∧ ∃ name ∈ m.dependencyNames, b = NodeId.within "" name := by
  simp only [Linked, mem_edges_ofDependencies, mem_dependencyEdges, Edge.mk.injEq, and_true]
  constructor
  · rintro ⟨m, hm, name, hname, rfl, rfl⟩
    exact ⟨m, hm, rfl, name, hname, rfl⟩
  · rintro ⟨m, hm, rfl, name, hname, rfl⟩
    exact ⟨m, hm, name, hname, rfl, rfl⟩

theorem linked_of_dependsOn {ms : List Module} {a b : String} (h : DependsOn ms a b) :
    Linked ms a (NodeId.within "" b) := by
  obtain ⟨⟨m, hm, hname, hb⟩, -⟩ := h
  exact linked_iff.mpr ⟨m, hm, hname, b, hb, rfl⟩

/-- Where no module's name holds a slash, chains of imports are chains of edges. -/
theorem linked_of_chain {ms : List Module} (hplain : ∀ m ∈ ms, '/' ∉ m.name.toList) {a b : String}
    (h : Relation.TransGen (DependsOn ms) a b) : Relation.TransGen (Linked ms) a b := by
  refine Relation.TransGen.mono (fun c d hcd => ?_) a b h
  have hlinked := linked_of_dependsOn hcd
  obtain ⟨-, m, hm, rfl⟩ := hcd
  rwa [within_empty_eq_self_iff.mpr (hplain m hm)] at hlinked

/-- No edge arrives at a name that holds a slash. -/
theorem not_linked_of_slash {ms : List Module} {b : String} (hb : '/' ∈ b.toList) (a : String) :
    ¬ Relation.TransGen (Linked ms) a b := by
  intro h
  obtain ⟨c, -, hlinked⟩ := Relation.TransGen.tail'_iff.mp h
  obtain ⟨m, -, -, name, -, rfl⟩ := linked_iff.mp hlinked
  exact slash_not_mem_within "" name hb

/-- **Chains of imports are linked through the names without a slash.** The edges of a module leave
at its name, and those of the modules that depend on it arrive at its identifier. These are one text
just if the name holds no slash; if it holds one, no chain of edges arrives where those of the
module leave. -/
theorem import_chains_linked {ms : List Module} {a b : String} (h : DependsOn ms a b) :
    Linked ms a (NodeId.within "" b) ∧
      (∀ m ∈ ms, m.name = b → ∀ e ∈ dependencyEdges m,
        e.tail = b ∧ (e.tail = NodeId.within "" b ↔ '/' ∉ b.toList)) ∧
      ('/' ∈ b.toList → ∀ c, ¬ Relation.TransGen (Linked ms) c b) ∧
      ((∀ m ∈ ms, '/' ∉ m.name.toList) → ∀ c, Relation.TransGen (DependsOn ms) c b →
        Relation.TransGen (Linked ms) c b) := by
  refine ⟨linked_of_dependsOn h, ?_, fun hb c => not_linked_of_slash hb c,
    fun hplain c => linked_of_chain hplain⟩
  rintro m - rfl e he
  obtain ⟨name, -, rfl⟩ := mem_dependencyEdges.mp he
  exact ⟨rfl, eq_comm.trans within_empty_eq_self_iff⟩

/-- Three modules in a chain of imports; the name of the second one is a path. -/
def relay : List Module :=
  [.importing "runner" ["tracks/inner"], .importing "tracks/inner" ["finish"],
    .importing "finish" []]

theorem import_chains_linked_relay :
    DependsOn relay "runner" "tracks/inner" ∧ Linked relay "runner" "tracks|inner" ∧
      Linked relay "tracks/inner" "finish" ∧
      ∀ c, ¬ Relation.TransGen (Linked relay) c "tracks/inner" := by
  have hdepends : DependsOn relay "runner" "tracks/inner" := by
    refine ⟨⟨.importing "runner" ["tracks/inner"], ?_, rfl, ?_⟩,
      .importing "tracks/inner" ["finish"], ?_, rfl⟩
    · exact List.mem_cons_self
    · exact List.mem_singleton_self _
    · exact List.mem_cons_of_mem _ List.mem_cons_self
  obtain ⟨hlinked, -, hcut, -⟩ := import_chains_linked hdepends
  refine ⟨hdepends, hlinked, ?_, hcut (by decide)⟩
  refine linked_iff.mpr ⟨.importing "tracks/inner" ["finish"], ?_, rfl, "finish", ?_, rfl⟩
  · exact List.mem_cons_of_mem _ List.mem_cons_self
  · exact List.mem_singleton_self _

/-- Not every module is one node of the diagram: its edges may leave elsewhere than those of the
modules that depend on it arrive. -/
theorem slash_splits_module :
    ¬ ∀ (ms : List Module) (m n : Module), m ∈ ms → n ∈ ms → m.name ∈ n.dependencyNames →
      ∀ e ∈ dependencyEdges m, Linked ms n.name e.tail := by
  intro h
  have hlinked := h relay (.importing "tracks/inner" ["finish"])
    (.importing "runner" ["tracks/inner"]) (List.mem_cons_of_mem _ List.mem_cons_self)
    List.mem_cons_self (List.mem_singleton_self _) ⟨"tracks/inner", "finish", []⟩
    (mem_dependencyEdges.mpr ⟨"finish", List.mem_singleton_self _, rfl⟩)
  exact not_linked_of_slash (by decide) _ (.single hlinked)

end Diagram

end ClassDiagram
