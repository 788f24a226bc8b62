import Mathlib.Data.List.Nodup
import ClassDiagram.Proofs.Diagram.Forest
import ClassDiagram.Proofs.Diagram.NodeId

/-!
The position of a node is the qualified name that its modules' names and its own name make.

* `ids_allNodes`: the identifiers of all nodes are those of their positions, in order;
* `nodup_nodePositions`: where names are good no two nodes have one position;
* `nodeIds_determine_positions`: identifiers agree with references and never collide.
-/

namespace ClassDiagram

open Diagram NodeId

/-! ## Positions -/

namespace Module

/-- The positions of the nodes of a module inside an outer position: that of its own node if it
has functions, those of its classes, and then those in the modules in it. -/
def nodePositions (outer : List String) : Module → List QualifiedName
  | ⟨header, _, modules, classes, methods, _⟩ =>
    (if methods = [] then [] else [.below outer header.name])
      ++ classes.map (fun k => .below (outer ++ [header.name]) k.name)
      ++ inner (outer ++ [header.name]) modules
where
  inner (outer : List String) : List Module → List QualifiedName
    | [] => []
    | m :: ms => nodePositions outer m ++ inner outer ms

/-- The positions of a module inside an outer position and of all modules in it. -/
def modulePositions (outer : List String) : Module → List QualifiedName
  | ⟨header, _, modules, _, _, _⟩ =>
    .below outer header.name :: inner (outer ++ [header.name]) modules
where
  inner (outer : List String) : List Module → List QualifiedName
    | [] => []
    | m :: ms => modulePositions outer m ++ inner outer ms

theorem nodePositions_eq (outer : List String) (m : Module) :
    m.nodePositions outer = (if m.methods = [] then [] else [.below outer m.name])
      ++ m.classes.map (fun k => .below (outer ++ [m.name]) k.name)
      ++ m.modules.flatMap (nodePositions (outer ++ [m.name])) := by
  have hinner : ∀ (o : List String) (ms : List Module),
      nodePositions.inner o ms = ms.flatMap (nodePositions o) := by
    intro o ms
    induction ms with
    | nil => rfl
    | cons n ms ih => rw [nodePositions.inner, ih, List.flatMap_cons]
  cases m
  rw [nodePositions, hinner]
  rfl

theorem modulePositions_eq (outer : List String) (m : Module) :
    m.modulePositions outer
      = .below outer m.name :: m.modules.flatMap (modulePositions (outer ++ [m.name])) := by
  have hinner : ∀ (o : List String) (ms : List Module),
      modulePositions.inner o ms = ms.flatMap (modulePositions o) := by
    intro o ms
    induction ms with
    | nil => rfl
    | cons n ms ih => rw [modulePositions.inner, ih, List.flatMap_cons]
  cases m
  rw [modulePositions, hinner]
  rfl

/-- Names that set all nodes of a module apart: each is a segment, and the modules and classes
of one module have different names, at every depth. -/
inductive WellNamed : Module → Prop
  | intro {m : Module} (name : IsSegment m.name)
      (classNames : ∀ k ∈ m.classes, IsSegment k.name)
      (distinct : (m.modules.map Module.name ++ m.classes.map Class.name).Nodup)
      (inner : ∀ n ∈ m.modules, WellNamed n) : WellNamed m

end Module

/-- A forest of well-named trees at the empty path whose roots have different names. -/
structure WellNamed (ms : List Module) : Prop where
  paths : ∀ m ∈ ms, m.path = ""
  distinct : (ms.map Module.name).Nodup
  trees : ∀ m ∈ ms, m.WellNamed

/-! ## Identifiers of positions -/

/-- A path at which names have the identifiers that they have behind an outer position. -/
def PathOf (path : String) (outer : List String) : Prop :=
  ∀ name, within path name = ofName (.below outer name)

theorem pathOf_root (path : String) : PathOf path [path] :=
  fun name => within_descend path [] name

theorem pathOf_empty : PathOf "" [] := by
  intro name
  rw [ofName_below, descend_nil]

theorem PathOf.step {path : String} {outer : List String} (h : PathOf path outer) (name : String) :
    PathOf (within path name) (outer ++ [name]) := by
  intro next
  rw [h name, ofName_below, ofName_below, descend_append, descend_cons, descend_nil]

theorem ids_moduleCluster (m : Module) {path : String} {outer : List String}
    (h : PathOf path outer) (level : Nat) :
    (moduleCluster path level m).allNodes.map Node.id = (m.nodePositions outer).map ofName := by
  induction m using Module.induction generalizing path outer level with
  | step m ih =>
    have own : (functionNodes (within path m.name) m.methods).map Node.id
        = (if m.methods = [] then [] else [QualifiedName.below outer m.name]).map ofName := by
      simp only [functionNodes, methods_eq_empty]
      split
      · rw [List.map_nil, List.map_nil]
      · rw [List.map_singleton, List.map_singleton, h m.name]
    have classes : (m.classes.map (classNode (within path m.name))).map Node.id
        = (m.classes.map fun k => QualifiedName.below (outer ++ [m.name]) k.name).map ofName := by
      rw [List.map_map, List.map_map]
      exact List.map_congr_left fun k _ => h.step m.name k.name
    have inner : ((m.modules.map (moduleCluster (within path m.name) (level + 1))).flatMap
          Cluster.allNodes).map Node.id
        = (m.modules.flatMap (Module.nodePositions (outer ++ [m.name]))).map ofName := by
      rw [List.flatMap_map, List.map_flatMap, List.map_flatMap]
      exact List.flatMap_congr fun n hn => ih n hn (h.step m.name) _
    rw [Cluster.allNodes_eq, m.nodePositions_eq, nodes_moduleCluster, clusters_moduleCluster,
      List.map_append, List.map_append, own, classes, inner, List.map_append, List.map_append]

theorem names_moduleCluster (m : Module) {path : String} {outer : List String}
    (h : PathOf path outer) (level : Nat) :
    (moduleCluster path level m :: (moduleCluster path level m).allClusters).map Cluster.name
      = ((m.modulePositions outer).map ofName).map ("cluster_" ++ ·) := by
  induction m using Module.induction generalizing path outer level with
  | step m ih =>
    have inner : ((m.modules.map (moduleCluster (within path m.name) (level + 1))).flatMap
          fun c => c :: c.allClusters).map Cluster.name
        = ((m.modules.flatMap (Module.modulePositions (outer ++ [m.name]))).map ofName).map
          ("cluster_" ++ ·) := by
      rw [List.flatMap_map, List.map_flatMap, List.map_flatMap, List.map_flatMap]
      exact List.flatMap_congr fun n hn => ih n hn (h.step m.name) _
    rw [Cluster.allClusters_eq, m.modulePositions_eq, clusters_moduleCluster, List.map_cons,
      List.map_cons, List.map_cons, inner, name_moduleCluster, h m.name]

/-- The identifiers of all nodes of a diagram are those of their positions behind their root's
path. -/
theorem ids_allNodes {ms : List Module} {outer : Module → List String}
    (h : ∀ m ∈ ms, PathOf m.path (outer m)) :
    (ofModules ms).root.allNodes.map Node.id
      = (ms.flatMap fun m => m.nodePositions (outer m)).map ofName := by
  rw [Cluster.allNodes_eq]
  show ([] ++ (ms.map _).flatMap _).map _ = _
  rw [List.nil_append, List.flatMap_map, List.map_flatMap, List.map_flatMap]
  exact List.flatMap_congr fun m hm => ids_moduleCluster m (h m hm) 0

theorem names_allClusters {ms : List Module} {outer : Module → List String}
    (h : ∀ m ∈ ms, PathOf m.path (outer m)) :
    (ofModules ms).root.allClusters.map Cluster.name
      = ((ms.flatMap fun m => m.modulePositions (outer m)).map ofName).map
        ("cluster_" ++ ·) := by
  rw [Cluster.allClusters_eq]
  show ((ms.map _).flatMap _).map _ = _
  rw [List.flatMap_map, List.map_flatMap, List.map_flatMap, List.map_flatMap]
  exact List.flatMap_congr fun m hm => names_moduleCluster m (h m hm) 0

/-! ## Positions are different -/

theorem mem_nodePositions {m : Module} {outer : List String} {q : QualifiedName} :
    q ∈ m.nodePositions outer ↔ (m.methods ≠ [] ∧ q = .below outer m.name)
      ∨ (∃ k ∈ m.classes, q = .below (outer ++ [m.name]) k.name)
      ∨ ∃ n ∈ m.modules, q ∈ n.nodePositions (outer ++ [m.name]) := by
  rw [m.nodePositions_eq, List.mem_append, List.mem_append, List.mem_map, List.mem_flatMap,
    or_assoc]
  simp only [eq_comm (a := q)]
  refine or_congr_left ?_
  by_cases h : m.methods = [] <;> simp [h, eq_comm]

theorem mem_modulePositions {m : Module} {outer : List String} {q : QualifiedName} :
    q ∈ m.modulePositions outer ↔ q = .below outer m.name
      ∨ ∃ n ∈ m.modules, q ∈ n.modulePositions (outer ++ [m.name]) := by
  rw [m.modulePositions_eq, List.mem_cons, List.mem_flatMap]

/-- All nodes in a module stand below its own position. -/
theorem prefix_of_mem_nodePositions (m : Module) {outer : List String} {q : QualifiedName}
    (h : q ∈ m.nodePositions outer) : outer ++ [m.name] <+: q.parts := by
  induction m using Module.induction generalizing outer with
  | step m ih =>
    rcases mem_nodePositions.mp h with ⟨-, rfl⟩ | ⟨k, -, rfl⟩ | ⟨n, hn, hq⟩
    · exact List.prefix_rfl
    · exact List.prefix_append _ _
    · exact (List.prefix_append _ _).trans (ih n hn hq)

theorem prefix_of_mem_modulePositions (m : Module) {outer : List String} {q : QualifiedName}
    (h : q ∈ m.modulePositions outer) : outer ++ [m.name] <+: q.parts := by
  induction m using Module.induction generalizing outer with
  | step m ih =>
    rcases mem_modulePositions.mp h with rfl | ⟨n, hn, hq⟩
    · exact List.prefix_rfl
    · exact (List.prefix_append _ _).trans (ih n hn hq)

theorem last_eq_of_below {outer : List String} {a b : String} {parts : List String}
    (ha : outer ++ [a] <+: parts) (hb : outer ++ [b] <+: parts) : a = b := by
  have h := List.prefix_of_prefix_length_le ha hb (by simp)
  have he := h.eq_of_length (by simp)
  exact List.singleton_inj.mp (List.append_cancel_left he)

/-- Trees with different names that each stay below their own position have nothing in common. -/
theorem nodup_siblings {outer : List String} {positions : Module → List QualifiedName}
    {ms : List Module} (hnames : (ms.map Module.name).Nodup)
    (hbelow : ∀ m ∈ ms, ∀ q ∈ positions m, outer ++ [m.name] <+: q.parts)
    (hown : ∀ m ∈ ms, (positions m).Nodup) : (ms.flatMap positions).Nodup := by
  refine List.nodup_flatMap.mpr ⟨hown, ?_⟩
  refine (List.pairwise_map.mp hnames).imp_of_mem ?_
  intro m n hm hn hne q hqm hqn
  exact hne (last_eq_of_below (hbelow m hm q hqm) (hbelow n hn q hqn))

/-- Nothing inside a module has the position of the module. -/
theorem not_prefix_below {outer : List String} {name inner : String} :
    ¬ outer ++ [name] ++ [inner] <+: (QualifiedName.below outer name).parts := by
  intro h
  have hlength := h.length_le
  simp [QualifiedName.below] at hlength

theorem nodup_nodePositions {m : Module} (hm : m.WellNamed) (outer : List String) :
    (m.nodePositions outer).Nodup := by
  induction hm generalizing outer with
  | @intro m name classNames distinct inner ih =>
    obtain ⟨hmodules, hclasses, hcross⟩ := List.nodup_append.mp distinct
    have own : (if m.methods = [] then [] else [QualifiedName.below outer m.name]).Nodup := by
      split <;> simp
    have classes : (m.classes.map fun k =>
        QualifiedName.below (outer ++ [m.name]) k.name).Nodup := by
      refine List.pairwise_map.mpr ((List.pairwise_map.mp hclasses).imp ?_)
      intro a b hne he
      exact hne (QualifiedName.below_injective he)
    have modules : (m.modules.flatMap (Module.nodePositions (outer ++ [m.name]))).Nodup :=
      nodup_siblings hmodules (fun n _ q hq => prefix_of_mem_nodePositions n hq)
        fun n hn => ih n hn _
    have eq_own : ∀ p ∈ (if m.methods = [] then [] else [QualifiedName.below outer m.name]),
        p = .below outer m.name := by
      intro p hp
      split at hp
      · exact absurd hp List.not_mem_nil
      · exact List.mem_singleton.mp hp
    rw [m.nodePositions_eq]
    refine List.nodup_append.mpr ⟨List.nodup_append.mpr ⟨own, classes, ?_⟩, modules, ?_⟩
    · rintro p hp q hq rfl
      obtain ⟨k, -, hk⟩ := List.mem_map.mp hq
      have hself : outer ++ [m.name] ++ [k.name] <+: p.parts := hk ▸ List.prefix_rfl
      rw [eq_own p hp] at hself
      exact not_prefix_below hself
    · rintro p hp q hq rfl
      obtain ⟨n, hn, hq⟩ := List.mem_flatMap.mp hq
      have hbelow := prefix_of_mem_nodePositions n hq
      rcases List.mem_append.mp hp with hp | hp
      · rw [eq_own p hp] at hbelow
        exact not_prefix_below hbelow
      · -- a class and a module compete for one name
        obtain ⟨k, hk, rfl⟩ := List.mem_map.mp hp
        exact hcross n.name (List.mem_map_of_mem hn) k.name (List.mem_map_of_mem hk)
          (last_eq_of_below hbelow List.prefix_rfl)

theorem nodup_modulePositions {m : Module} (hm : m.WellNamed) (outer : List String) :
    (m.modulePositions outer).Nodup := by
  induction hm generalizing outer with
  | @intro m name classNames distinct inner ih =>
    obtain ⟨hmodules, -, -⟩ := List.nodup_append.mp distinct
    rw [m.modulePositions_eq]
    refine List.nodup_cons.mpr ⟨?_, nodup_siblings hmodules
      (fun n _ q hq => prefix_of_mem_modulePositions n hq) fun n hn => ih n hn _⟩
    intro h
    obtain ⟨n, -, hq⟩ := List.mem_flatMap.mp h
    exact not_prefix_below (prefix_of_mem_modulePositions n hq)

theorem isSegment_below {outer : List String} {name : String} (houter : ∀ s ∈ outer, IsSegment s)
    (hname : IsSegment name) : ∀ s ∈ outer ++ [name], IsSegment s := by
  intro s hs
  rcases List.mem_append.mp hs with hs | hs
  · exact houter s hs
  · rw [List.mem_singleton.mp hs]
    exact hname

theorem isSegment_nodePositions {m : Module} (hm : m.WellNamed) {outer : List String}
    (houter : ∀ s ∈ outer, IsSegment s) :
    ∀ q ∈ m.nodePositions outer, ∀ s ∈ q.parts, IsSegment s := by
  induction hm generalizing outer with
  | intro name classNames distinct inner ih =>
    intro q hq
    have hin := isSegment_below houter name
    rcases mem_nodePositions.mp hq with ⟨-, rfl⟩ | ⟨k, hk, rfl⟩ | ⟨n, hn, hq⟩
    · exact hin
    · exact isSegment_below hin (classNames k hk)
    · exact ih n hn hin q hq

theorem isSegment_modulePositions {m : Module} (hm : m.WellNamed) {outer : List String}
    (houter : ∀ s ∈ outer, IsSegment s) :
    ∀ q ∈ m.modulePositions outer, ∀ s ∈ q.parts, IsSegment s := by
  induction hm generalizing outer with
  | intro name classNames distinct inner ih =>
    intro q hq
    have hin := isSegment_below houter name
    rcases mem_modulePositions.mp hq with rfl | ⟨n, hn, hq⟩
    · exact hin
    · exact ih n hn hin q hq

/-! ## Forests -/

/-- Different positions whose segments are good have different identifiers. -/
theorem nodup_map_ofName {positions : List QualifiedName} (h : positions.Nodup)
    (hs : ∀ q ∈ positions, ∀ s ∈ q.parts, IsSegment s) : (positions.map ofName).Nodup := by
  refine List.pairwise_map.mpr (h.imp_of_mem ?_)
  intro p q hp hq hne he
  exact hne (ofName_injective (hs p hp) (hs q hq) he)

/-- **Identifiers agree with references and never collide.** Every node has the identifier that
its path and the names on the way to it point at. In a well-named forest the identifiers of nodes
and the names of clusters are different, and a reference points at a node just if it names the
position of the node. -/
theorem nodeIds_determine_positions (ms : List Module) :
    (ofModules ms).root.allNodes.map Node.id
        = (ms.flatMap fun m => m.nodePositions [m.path]).map ofName ∧
      (WellNamed ms →
        ((ofModules ms).root.allNodes.map Node.id).Nodup ∧
        ((ofModules ms).root.allClusters.map Cluster.name).Nodup ∧
        ∀ q : QualifiedName, (∀ s ∈ q.parts, IsSegment s) →
          List.Forall₂ (fun position node => ofName q = node.id ↔ q = position)
            (ms.flatMap (Module.nodePositions [])) (ofModules ms).root.allNodes) := by
  refine ⟨ids_allNodes fun m _ => pathOf_root m.path, fun h => ?_⟩
  have hpath : ∀ m ∈ ms, PathOf m.path [] := by
    intro m hm
    rw [h.paths m hm]
    exact pathOf_empty
  have hnone : ∀ s ∈ ([] : List String), IsSegment s := fun s hs => absurd hs List.not_mem_nil
  have hsegments : ∀ q ∈ ms.flatMap (Module.nodePositions []), ∀ s ∈ q.parts, IsSegment s := by
    intro q hq
    obtain ⟨m, hm, hq⟩ := List.mem_flatMap.mp hq
    exact isSegment_nodePositions (h.trees m hm) hnone q hq
  refine ⟨?_, ?_, ?_⟩
  · rw [ids_allNodes hpath]
    refine nodup_map_ofName ?_ hsegments
    exact nodup_siblings h.distinct (fun m _ q hq => prefix_of_mem_nodePositions m hq)
      fun m hm => nodup_nodePositions (h.trees m hm) []
  · rw [names_allClusters hpath]
    refine List.pairwise_map.mpr ((nodup_map_ofName (nodup_siblings h.distinct
      (fun m _ q hq => prefix_of_mem_modulePositions m hq)
      fun m hm => nodup_modulePositions (h.trees m hm) []) ?_).imp ?_)
    · intro q hq
      obtain ⟨m, hm, hq⟩ := List.mem_flatMap.mp hq
      exact isSegment_modulePositions (h.trees m hm) hnone q hq
    · intro a b hne he
      exact hne (String.append_right_inj _ |>.mp he)
  · intro q hq
    have hids := List.forall₂_eq_eq_eq.symm ▸ (ids_allNodes hpath).symm
    rw [List.forall₂_map_left_iff, List.forall₂_map_right_iff] at hids
    refine ((List.forall₂_and_left _ _).mpr ⟨hsegments, hids⟩).imp ?_
    rintro position node ⟨hposition, hid⟩
    rw [← hid]
    exact ⟨ofName_injective hq hposition, congrArg ofName⟩

/-- Two modules, in one of which a module stands beside a class. -/
def menagerie : List Module := [
  { header := { name := "zoo" }
    modules := [{ header := { name := "cats" }, classes := [{ header := { name := "Lion" } }] }]
    classes := [{ header := { name := "Lion" }, base := some (.pair "farm" "Dog") }] },
  { header := { name := "farm" }
    classes := [{ header := { name := "Dog" } }]
    methods := [{ header := { name := "feed" } }] }]

theorem wellNamed_menagerie : WellNamed menagerie where
  paths := by decide
  distinct := by decide
  trees := by
    refine List.forall_mem_cons.mpr ⟨.intro (by decide) (by decide) (by decide) ?_,
      List.forall_mem_singleton.mpr
        (.intro (by decide) (by decide) (by decide) (List.forall_mem_nil _))⟩
    refine List.forall_mem_singleton.mpr ?_
    exact .intro (by decide) (by decide) (by decide) (List.forall_mem_nil _)

/-- The reference to a dog points at the dog's node and at no other. -/
theorem nodeIds_determine_positions_menagerie :
    WellNamed menagerie ∧ (∀ s ∈ (QualifiedName.pair "farm" "Dog").parts, IsSegment s) ∧
      ((ofModules menagerie).root.allNodes.map Node.id).Nodup ∧
      ((ofModules menagerie).root.allClusters.map Cluster.name).Nodup ∧
      List.Forall₂ (fun position node => ofName (.pair "farm" "Dog") = node.id ↔
          QualifiedName.pair "farm" "Dog" = position)
        (menagerie.flatMap (Module.nodePositions [])) (ofModules menagerie).root.allNodes := by
  have hdog : ∀ s ∈ (QualifiedName.pair "farm" "Dog").parts, IsSegment s := by decide
  obtain ⟨hids, hnames, hreferences⟩ :=
    (nodeIds_determine_positions menagerie).2 wellNamed_menagerie
  exact ⟨wellNamed_menagerie, hdog, hids, hnames, hreferences _ hdog⟩

end ClassDiagram
