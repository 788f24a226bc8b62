import ClassDiagram.Proofs.Dictionary
import ClassDiagram.Proofs.Dot.Lexing

/-!
A printed diagram reads back as itself.

* `read_body`: the tokens of a cluster put its nodes, clusters and edges into the open scope;
* `ofText?_text`: what is read is the diagram with its attributes in the order in which they are
  printed (`arrangement`);
* `exists_ofText?_text`: that is the same diagram but for the order of attributes.
-/

namespace ClassDiagram.Dot

open Diagram (Cluster Edge Node)

/-! ## Attribute lists -/

/-- A token that can go on with the statement before it. -/
def goesOn : Token → Bool
  | .leftBracket | .arrow | .equals => true
  | _ => false

/-- A statement can end before these tokens. -/
def Fresh (ts : List Token) : Prop := ∀ t ∈ ts.head?, goesOn t = false

theorem fresh_cons {t : Token} {ts : List Token} (h : goesOn t = false) : Fresh (t :: ts) := by
  intro u hu
  rw [List.head?_cons, Option.mem_some_iff] at hu
  exact hu ▸ h

theorem assignments?_append (attributes : Attributes) (rest : List Token) :
    assignments? (assignmentTokens attributes ++ .rightBracket :: rest)
      = some (attributes, rest) := by
  induction attributes with
  | nil => simp only [assignmentTokens, List.flatMap_nil, List.nil_append, assignments?]
  | cons a attributes ih =>
    obtain ⟨key, value⟩ := a
    show assignments? (.id key :: .equals :: .id value :: (assignmentTokens attributes
      ++ .rightBracket :: rest)) = _
    have hnext : ∀ t ∈ (assignmentTokens attributes ++ .rightBracket :: rest).head?,
        t ≠ .comma ∧ t ≠ .semicolon := by
      intro t ht
      cases attributes with
      | nil => cases ht; exact ⟨by simp, by simp⟩
      | cons => cases ht; exact ⟨by simp, by simp⟩
    rw [assignments?, ih]
    · rfl
    · intro tail h
      exact (hnext .comma (by rw [h]; rfl)).1 rfl
    · intro tail h
      exact (hnext .semicolon (by rw [h]; rfl)).2 rfl

theorem attributes?_fresh {rest : List Token} (h : Fresh rest) :
    attributes? rest = some ([], rest) := by
  rw [attributes?]
  rintro tail rfl
  exact absurd (h .leftBracket rfl) (by decide)

theorem attributes?_append (attributes : Attributes) {rest : List Token} (h : Fresh rest) :
    attributes? (bracketTokens attributes ++ rest) = some (attributes, rest) := by
  unfold bracketTokens
  split
  · rename_i hempty
    rw [hempty]
    exact attributes?_fresh h
  · rw [List.cons_append, List.append_assoc, List.singleton_append,
      attributes?_bracket (assignments?_append attributes rest), attributes?_fresh h]
    simp

/-- Behind a name there are attributes or the next statement, no edge and no assignment. -/
theorem goesOn_bracketTokens (attributes : Attributes) {rest : List Token} (h : Fresh rest) :
    ∀ t ∈ (bracketTokens attributes ++ rest).head?, t ≠ .arrow ∧ t ≠ .equals := by
  unfold bracketTokens
  intro t ht
  split at ht
  · have hfresh := h t ht
    constructor <;> rintro rfl <;> cases hfresh
  · cases ht
    exact ⟨by simp, by simp⟩

theorem heads_append (attributes : Attributes) {rest : List Token} (h : Fresh rest) :
    heads (bracketTokens attributes ++ rest) = ([], bracketTokens attributes ++ rest) := by
  rw [heads]
  intro head tail he
  exact (goesOn_bracketTokens attributes h .arrow (by rw [he]; rfl)).1 rfl

/-! ## Statements -/

/-- What a node or an edge is read as: its attributes are in the order of its statement. -/
def nodeArrangement (n : Node) : Node := { n with attributes := labelFirst n.attributes }

def edgeArrangement (e : Edge) : Edge := { e with attributes := labelFirst e.attributes }

/-- What a cluster is read as. -/
def clusterArrangement : Cluster → Cluster
  | ⟨name, attributes, nodes, edges, clusters⟩ =>
    ⟨name, sorted attributes, nodes.map nodeArrangement, edges.map edgeArrangement,
      arrangements clusters⟩
where
  arrangements : List Cluster → List Cluster
    | [] => []
    | c :: cs => clusterArrangement c :: arrangements cs

/-- What a diagram is read as. -/
def arrangement (d : Diagram) : Diagram :=
  ⟨clusterArrangement d.root, sorted d.nodeDefaults, sorted d.edgeDefaults⟩

section Fresh

variable {rest : List Token} (hrest : Fresh rest)
include hrest

theorem fresh_nodes (nodes : List Node) : Fresh ((nodes.map nodeTokens).flatten ++ rest) := by
  cases nodes with
  | nil => exact hrest
  | cons => exact fresh_cons rfl

theorem fresh_edges (edges : List Edge) : Fresh ((edges.map edgeTokens).flatten ++ rest) := by
  cases edges with
  | nil => exact hrest
  | cons => exact fresh_cons rfl

theorem fresh_clusters (clusters : List Cluster) :
    Fresh ((bodyTokens.clusterTokens clusters).flatten ++ rest) := by
  cases clusters with
  | nil => exact hrest
  | cons =>
    rw [bodyTokens.clusterTokens]
    split <;> exact fresh_cons rfl

theorem fresh_body (c : Cluster) : Fresh ((bodyTokens c).flatten ++ rest) := by
  cases c
  rw [bodyTokens, List.flatten_append, List.flatten_append, List.append_assoc, List.append_assoc]
  exact fresh_nodes (fresh_clusters (fresh_edges hrest _) _) _

theorem fresh_defaults (k : Keyword) (attributes : Attributes) :
    Fresh ((defaultTokens k attributes).flatten ++ rest) := by
  unfold defaultTokens
  split
  · exact hrest
  · exact fresh_cons rfl

end Fresh

@[simp]
theorem cluster_eta (c : Cluster) :
    (⟨c.name, c.attributes, c.nodes, c.edges, c.clusters⟩ : Cluster) = c := by
  cases c; rfl

namespace Draft

variable (d : Draft) {rest : List Token}

/-- Puts what a cluster holds behind what the open scope holds. -/
def extend (c : Cluster) : Draft :=
  d.modify fun s => { s with
    nodes := s.nodes ++ c.nodes
    edges := s.edges ++ c.edges
    clusters := s.clusters ++ c.clusters }

theorem read_node {n : Node} (hn : ReadableNode n) (hrest : Fresh rest) :
    d.read (nodeTokens n ++ rest)
      = (d.modify (·.addNode (nodeArrangement n))).read rest := by
  have hkeys := (hn.attributes.perm (labelFirst_perm n.attributes)).distinct
  have hheads := heads_append (labelFirst n.attributes) hrest
  have hattributes := attributes?_append (labelFirst n.attributes) hrest
  rw [nodeTokens, List.cons_append, read_id]
  · rw [hheads, addStatement, if_pos rfl, Dictionary.putAll_nil hkeys]
    rfl
  · intro value tail he
    exact (goesOn_bracketTokens _ hrest .equals (by rw [he]; rfl)).2 rfl
  · rw [hheads, hattributes]

theorem read_edge {e : Edge} (he : ReadableEdge e) (hrest : Fresh rest) :
    d.read (edgeTokens e ++ rest)
      = (d.modify (·.addEdge (edgeArrangement e))).read rest := by
  have hkeys := (he.attributes.perm (labelFirst_perm e.attributes)).distinct
  have hheads : heads (.arrow :: .id e.head :: (bracketTokens (labelFirst e.attributes) ++ rest))
      = ([e.head], bracketTokens (labelFirst e.attributes) ++ rest) := by
    rw [heads, heads_append _ hrest]
  have hattributes := attributes?_append (labelFirst e.attributes) hrest
  rw [edgeTokens, List.cons_append, List.cons_append, List.cons_append, read_id]
  · rw [hheads, addStatement, if_neg (List.cons_ne_nil _ _), Dictionary.putAll_nil hkeys]
    rfl
  · intro value tail h
    cases h
  · rw [hheads, hattributes]

theorem eq_of_setDefaults?_nil {k : Keyword} {e : Draft} (h : d.setDefaults? k [] = some e) :
    e = d := by
  obtain ⟨⟨name, attributes, nodes, edges, clusters⟩, outer, nodeDefaults, edgeDefaults⟩ := d
  cases k <;> cases outer <;> cases h <;> rfl

theorem read_defaults (k : Keyword) (attributes : Attributes) {e : Draft}
    (hset : d.setDefaults? k (sorted attributes) = some e) (hrest : Fresh rest) :
    d.read ((defaultTokens k attributes).flatten ++ rest) = e.read rest := by
  unfold defaultTokens
  split
  · rename_i hempty
    rw [hempty, sorted, List.mergeSort_nil] at hset
    rw [d.eq_of_setDefaults?_nil hset]
    rfl
  · rename_i hne
    have hsorted : sorted attributes ≠ [] := by
      intro h
      have hlength := (sorted_perm attributes).length_eq
      rw [h] at hlength
      exact hne (List.length_eq_zero_iff.mp hlength.symm)
    have hattributes := attributes?_append (sorted attributes) hrest
    rw [bracketTokens, if_neg hsorted, List.cons_append] at hattributes
    rw [List.flatten_singleton, bracketTokens, if_neg hsorted, List.cons_append, List.cons_append,
      read_keyword hattributes, hset]
    rfl

theorem read_nodes {nodes : List Node} (h : ∀ n ∈ nodes, ReadableNode n) (hrest : Fresh rest) :
    d.read ((nodes.map nodeTokens).flatten ++ rest)
      = (d.modify fun s => { s with nodes := s.nodes ++ nodes.map nodeArrangement }).read rest := by
  induction nodes generalizing d with
  | nil => simp [modify]
  | cons n nodes ih =>
    obtain ⟨hn, hnodes⟩ := List.forall_mem_cons.mp h
    rw [List.map_cons, List.flatten_cons, List.append_assoc,
      read_node d hn (fresh_nodes hrest nodes), ih _ hnodes]
    simp [modify, Cluster.addNode, List.append_assoc]

theorem read_edges {edges : List Edge} (h : ∀ e ∈ edges, ReadableEdge e) (hrest : Fresh rest) :
    d.read ((edges.map edgeTokens).flatten ++ rest)
      = (d.modify fun s => { s with edges := s.edges ++ edges.map edgeArrangement }).read rest := by
  induction edges generalizing d with
  | nil => simp [modify]
  | cons e edges ih =>
    obtain ⟨he, hedges⟩ := List.forall_mem_cons.mp h
    rw [List.map_cons, List.flatten_cons, List.append_assoc,
      read_edge d he (fresh_edges hrest edges), ih _ hedges]
    simp [modify, Cluster.addEdge, List.append_assoc]

theorem read_cluster {c : Cluster} (hc : ReadableCluster c) (cs : List Cluster)
    (ih : ∀ (d : Draft) {rest : List Token}, Fresh rest →
      d.read ((bodyTokens c).flatten ++ rest) = (d.extend (clusterArrangement c)).read rest) :
    d.read ((bodyTokens.clusterTokens (c :: cs)).flatten ++ rest)
      = (d.modify (·.addCluster (clusterArrangement c))).read
        ((bodyTokens.clusterTokens cs).flatten ++ rest) := by
  obtain ⟨name, attributes⟩ := hc
  have hkeys := (attributes.perm (sorted_perm c.attributes)).distinct
  have hopen : ∀ ts, d.read
      ((if c.name = "" then [.leftBrace] else openingTokens .subgraph c.name) ++ ts)
      = (d.enter c.name).read ts := by
    intro ts
    split
    · rename_i hempty
      rw [List.singleton_append, read, hempty]
    · rename_i hne
      rw [openingTokens, if_neg hne]
      simp only [List.cons_append, List.nil_append]
      rw [read]
  have hset : (d.enter c.name).setDefaults? .graph (sorted c.attributes)
      = some ((d.enter c.name).modify fun s => { s with attributes := sorted c.attributes }) := by
    simp only [setDefaults?, modify, enter]
    rw [Dictionary.putAll_nil hkeys]
  have hclose : ∀ ts, Fresh (.rightBrace :: ts) := fun ts => fresh_cons rfl
  rw [bodyTokens.clusterTokens, List.flatten_append, List.flatten_append, List.flatten_cons,
    List.flatten_append, List.flatten_singleton]
  simp only [List.append_assoc, List.cons_append, List.nil_append]
  rw [hopen, read_defaults _ _ _ hset (fresh_body (hclose _) c), ih _ (hclose _), read]
  cases c
  simp [extend, modify, enter, clusterArrangement]

theorem read_clusters {clusters : List Cluster} (h : ∀ c ∈ clusters, ReadableCluster c)
    (ih : ∀ c ∈ clusters, ∀ (d : Draft) {rest : List Token}, Fresh rest →
      d.read ((bodyTokens c).flatten ++ rest) = (d.extend (clusterArrangement c)).read rest) :
    d.read ((bodyTokens.clusterTokens clusters).flatten ++ rest)
      = (d.modify fun s => { s with
          clusters := s.clusters ++ clusterArrangement.arrangements clusters }).read rest := by
  induction clusters generalizing d with
  | nil => simp [bodyTokens.clusterTokens, clusterArrangement.arrangements, modify]
  | cons c cs ihcs =>
    obtain ⟨hc, hcs⟩ := List.forall_mem_cons.mp h
    obtain ⟨ihc, ih⟩ := List.forall_mem_cons.mp ih
    rw [d.read_cluster hc cs ihc, ihcs _ hcs ih]
    simp [modify, Cluster.addCluster, clusterArrangement.arrangements, List.append_assoc]

/-- **The statements of a cluster are read into the open scope.** -/
theorem read_body {c : Cluster} (h : ReadableCluster c) (hrest : Fresh rest) :
    d.read ((bodyTokens c).flatten ++ rest) = (d.extend (clusterArrangement c)).read rest := by
  induction h generalizing d rest with
  | @intro c name attributes nodes edges clusters ih =>
    cases c with
    | mk name attributes ns es cs =>
      rw [bodyTokens, List.flatten_append, List.flatten_append, List.append_assoc,
        List.append_assoc, read_nodes _ nodes (fresh_clusters (fresh_edges hrest es) cs),
        read_clusters _ clusters fun c hc d _ hrest => ih c hc d hrest,
        read_edges _ edges hrest]
      simp [extend, modify, clusterArrangement]

end Draft

/-! ## Diagrams -/

theorem read_statements {d : Diagram} (h : ReadableDiagram d) :
    Draft.read { scope := { name := d.root.name } }
      ((defaultTokens .graph d.root.attributes ++ defaultTokens .node d.nodeDefaults
        ++ defaultTokens .edge d.edgeDefaults ++ bodyTokens d.root).flatten ++ [.rightBrace])
      = some (arrangement d) := by
  obtain ⟨-, attributes⟩ := h.root
  have hgraph := Dictionary.putAll_nil (attributes.perm (sorted_perm _)).distinct
  have hnode := Dictionary.putAll_nil (h.nodeDefaults.perm (sorted_perm _)).distinct
  have hedge := Dictionary.putAll_nil (h.edgeDefaults.perm (sorted_perm _)).distinct
  have hclose : Fresh [.rightBrace] := fresh_cons rfl
  have hbody := fresh_body hclose d.root
  have hedges := fresh_defaults hbody .edge d.edgeDefaults
  have hnodes := fresh_defaults hedges .node d.nodeDefaults
  simp only [List.flatten_append, List.append_assoc]
  rw [Draft.read_defaults _ _ _ rfl hnodes, Draft.read_defaults _ _ _ rfl hedges,
    Draft.read_defaults _ _ _ rfl hbody, Draft.read_body _ h.root hclose, Draft.read]
  obtain ⟨⟨name, graph, nodes, edges, clusters⟩, nodeDefaults, edgeDefaults⟩ := d
  simp [Draft.extend, Draft.modify, clusterArrangement, arrangement, hgraph, hnode, hedge]

/-- **A printed diagram is read back**, with its attributes in the order in which they are
printed. -/
theorem ofText?_text {d : Diagram} (h : ReadableDiagram d) :
    Diagram.ofText? (text d) = some (arrangement d) := by
  rw [Diagram.ofText?, tokens?_text h, diagramTokens, openingTokens]
  by_cases hname : d.root.name = ""
  · rw [if_pos hname, ← read_statements h, hname]
    rfl
  · rw [if_neg hname, ← read_statements h]
    rfl

/-! ## The same diagram -/

/-- The same keys with the same values, in any order. -/
def SameAttributes (a b : Attributes) : Prop := ∀ key, a.get? key = b.get? key

structure SameNode (m n : Node) : Prop where
  id : m.id = n.id
  attributes : SameAttributes m.attributes n.attributes

structure SameEdge (e f : Edge) : Prop where
  tail : e.tail = f.tail
  head : e.head = f.head
  attributes : SameAttributes e.attributes f.attributes

/-- The same cluster but for the order of attributes: nodes, edges and clusters come in one order
on both sides. -/
inductive SameCluster : Cluster → Cluster → Prop
  | intro {c d : Cluster} (name : c.name = d.name)
      (attributes : SameAttributes c.attributes d.attributes)
      (nodes : List.Forall₂ SameNode c.nodes d.nodes)
      (edges : List.Forall₂ SameEdge c.edges d.edges)
      (clusters : List.Forall₂ SameCluster c.clusters d.clusters) : SameCluster c d

structure SameDiagram (d e : Diagram) : Prop where
  root : SameCluster d.root e.root
  nodeDefaults : SameAttributes d.nodeDefaults e.nodeDefaults
  edgeDefaults : SameAttributes d.edgeDefaults e.edgeDefaults

theorem sameAttributes_of_perm {a b : Attributes} (h : ReadableAttributes a) (hp : b.Perm a) :
    SameAttributes b a :=
  fun key => (Dictionary.get?_perm h.distinct hp.symm key).symm

theorem arrangements_eq_map (cs : List Cluster) :
    clusterArrangement.arrangements cs = cs.map clusterArrangement := by
  induction cs with
  | nil => rfl
  | cons c cs ih => rw [clusterArrangement.arrangements, ih, List.map_cons]

theorem clusterArrangement_same {c : Cluster} (h : ReadableCluster c) :
    SameCluster (clusterArrangement c) c := by
  induction h with
  | @intro c name attributes nodes edges clusters ih =>
    have hattributes := sameAttributes_of_perm attributes (sorted_perm c.attributes)
    have hnodes : List.Forall₂ SameNode (c.nodes.map nodeArrangement) c.nodes :=
      List.forall₂_map_left_iff.mpr (List.forall₂_same.mpr fun n hn =>
        ⟨rfl, sameAttributes_of_perm (nodes n hn).attributes (labelFirst_perm _)⟩)
    have hedges : List.Forall₂ SameEdge (c.edges.map edgeArrangement) c.edges :=
      List.forall₂_map_left_iff.mpr (List.forall₂_same.mpr fun e he =>
        ⟨rfl, rfl, sameAttributes_of_perm (edges e he).attributes (labelFirst_perm _)⟩)
    have hclusters : List.Forall₂ SameCluster (clusterArrangement.arrangements c.clusters)
        c.clusters := by
      rw [arrangements_eq_map]
      exact List.forall₂_map_left_iff.mpr (List.forall₂_same.mpr ih)
    cases c
    exact .intro rfl hattributes hnodes hedges hclusters

theorem arrangement_same {d : Diagram} (h : ReadableDiagram d) : SameDiagram (arrangement d) d where
  root := clusterArrangement_same h.root
  nodeDefaults := sameAttributes_of_perm h.nodeDefaults (sorted_perm _)
  edgeDefaults := sameAttributes_of_perm h.edgeDefaults (sorted_perm _)

/-- **Printing loses nothing.** What is read back is the same diagram. -/
theorem exists_ofText?_text {d : Diagram} (h : ReadableDiagram d) :
    ∃ e, Diagram.ofText? (text d) = some e ∧ SameDiagram e d :=
  ⟨arrangement d, ofText?_text h, arrangement_same h⟩

end ClassDiagram.Dot
