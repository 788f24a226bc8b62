import ClassDiagram.Dot.Printer
import ClassDiagram.Proofs.Diagram.Forest
import ClassDiagram.Proofs.Diagram.NodeId

/-!
Where an edge ends. The statement of a node has the whole identifier in its written form, and the
end of an edge has the part in front of the first colon, with a port behind it (`quoteEnd_eq`). What
a written identifier stands for has a colon just if the identifier has one (`colon_mem_denoted`). So
an edge to the identifier of a node ends at the node just if there is no colon in the path and the
name that the identifier is made of (`edge_ends_at_box_iff`).
-/

namespace ClassDiagram.Dot

open Diagram (Cluster Edge Node)

/-! ## Written identifiers -/

/-- What a text between quotes stands for. A backslash is the escape of a quote and of a line break,
which is left out; two of them stand for themselves, and so does one before anything else. -/
def unescape : List Char → List Char
  | '\\' :: '"' :: cs => '"' :: unescape cs
  | '\\' :: '\n' :: cs => unescape cs
  | '\\' :: '\\' :: cs => '\\' :: '\\' :: unescape cs
  | c :: cs => c :: unescape cs
  | [] => []

/-- The name that a written identifier stands for. -/
def denoted : List Char → List Char
  | '"' :: cs => unescape cs.dropLast
  | cs => withoutFinalBreak cs

theorem colon_mem_unescape {cs : List Char} : ':' ∈ unescape cs ↔ ':' ∈ cs := by
  fun_induction unescape cs <;> simp_all

theorem colon_mem_escapeFrom {cs : List Char} (n : Nat) : ':' ∈ escapeFrom n cs ↔ ':' ∈ cs := by
  induction cs generalizing n with
  | nil => simp [escapeFrom]
  | cons c cs ih =>
    rw [escapeFrom]
    split
    · rename_i hc
      simp [hc, ih]
    · split
      · rename_i hc
        simp [hc, ih]
      · simp [ih]

theorem colon_mem_withoutFinalBreak {cs : List Char} :
    ':' ∈ withoutFinalBreak cs ↔ ':' ∈ cs := by
  unfold withoutFinalBreak
  split
  · rename_i hlast
    obtain ⟨front, rfl⟩ := List.getLast?_eq_some_iff.mp hlast
    simp
  · rfl

theorem isBare_quote (cs : List Char) : isBare ('"' :: cs) = false := by
  have hword : ∀ cs, isWord ('"' :: cs) = false := fun _ => rfl
  have hnumeral : ∀ cs, isNumeral ('"' :: cs) = false := fun _ => rfl
  have hbreak : withoutFinalBreak ('"' :: cs) = '"' :: withoutFinalBreak cs := by
    cases cs <;> simp [withoutFinalBreak]
    split <;> simp
  rw [isBare, hbreak, hword, hnumeral]
  rfl

theorem denoted_bare {cs : List Char} (h : isBare cs = true) :
    denoted cs = withoutFinalBreak cs := by
  unfold denoted
  split
  · rw [isBare_quote] at h
    cases h
  · rfl

theorem denoted_quoted (cs : List Char) : denoted ('"' :: (cs ++ ['"'])) = unescape cs := by
  rw [denoted, List.dropLast_concat]

theorem colon_mem_denoted {cs : List Char} : ':' ∈ denoted (quote cs) ↔ ':' ∈ cs := by
  unfold quote
  split
  · rename_i hbare
    rw [denoted_bare hbare, colon_mem_withoutFinalBreak]
  · rw [denoted_quoted, colon_mem_unescape, escape, colon_mem_escapeFrom]

/-! ## Ends of edges -/

/-- The written form of the node at the end of an edge. -/
def endNode (cs : List Char) : List Char := quote (splitColon cs).1

/-- What stands behind the node at the end of an edge: a field and perhaps a compass point, if there
is a colon with something behind it. -/
def port (cs : List Char) : List Char :=
  let (field, compass) := splitColon (splitColon cs).2
  if (splitColon cs).2 = [] then []
  else ':' :: (quote field ++ if compass = [] then [] else ':' :: compass)

theorem quoteEnd_eq (cs : List Char) : quoteEnd cs = endNode cs ++ port cs := by
  unfold quoteEnd endNode port
  generalize splitColon cs = parts
  by_cases h : parts.2 = [] <;> simp [h]

/-- A colon sets the port apart, so it ends the written form of the node in front of it. -/
theorem port_eq_nil_or (cs : List Char) : port cs = [] ∨ ∃ more, port cs = ':' :: more := by
  by_cases h : (splitColon cs).2 = []
  · exact .inl (if_pos h)
  · exact .inr ⟨_, if_neg h⟩

theorem colon_not_mem_splitColon (cs : List Char) : ':' ∉ (splitColon cs).1 := by
  intro h
  have hne : decide (':' ≠ ':') = true := List.all_eq_true.mp List.all_takeWhile ':' h
  exact absurd hne (by decide)

/-- The name of the node that the statement for an identifier makes. -/
def boxName (id : String) : List Char := denoted (quote id.toList)

/-- The name of the node that an edge to an identifier ends at. -/
def endName (id : String) : List Char := denoted (endNode id.toList)

theorem endName_eq_boxName_iff {id : String} : endName id = boxName id ↔ ':' ∉ id.toList := by
  constructor
  · intro h
    rw [← colon_mem_denoted]
    change ':' ∉ boxName id
    rw [← h, endName, endNode, colon_mem_denoted]
    exact colon_not_mem_splitColon id.toList
  · intro h
    rw [endName, endNode, splitColon_of_not_mem h, boxName]

theorem colon_mem_encode {cs : List Char} : ':' ∈ NodeId.encode cs ↔ ':' ∈ cs := by
  have hseparator : ∀ c, NodeId.separator c = ':' ↔ c = ':' := by
    intro c
    unfold NodeId.separator
    split
    · rename_i hc
      subst hc
      decide
    · rfl
  simp [NodeId.encode, hseparator]

theorem colon_mem_within {path name : String} :
    ':' ∈ (NodeId.within path name).toList ↔ ':' ∈ path.toList ∨ ':' ∈ name.toList := by
  rw [NodeId.toList_within]
  split
  · rename_i hpath
    simp [hpath, colon_mem_encode]
  · simp [colon_mem_encode]

/-! ## Statements -/

/-- A statement stands in what is printed of a cluster, behind a tab for each cluster around it. -/
def Prints (c : Cluster) (statement : List Char) : Prop :=
  ∃ depth, List.replicate depth '\t' ++ statement ∈ body c

theorem body_eq (c : Cluster) : body c = c.nodes.map nodeStatement
    ++ body.clusterStatements c.clusters ++ c.edges.map edgeStatement := by
  cases c
  rfl

theorem mem_clusterStatements {c : Cluster} {cs : List Cluster} (hc : c ∈ cs)
    {statement : List Char} (h : statement ∈ body c) :
    indent statement ∈ body.clusterStatements cs := by
  induction cs with
  | nil => cases hc
  | cons d cs ih =>
    rw [body.clusterStatements, List.mem_append]
    rcases List.mem_cons.mp hc with rfl | hc
    · exact .inl (List.mem_map_of_mem (by simp [h]))
    · exact .inr (ih hc)

theorem Prints.outward {c d : Cluster} (hd : d ∈ c.clusters) {statement : List Char}
    (h : Prints d statement) : Prints c statement := by
  obtain ⟨depth, h⟩ := h
  refine ⟨depth + 1, ?_⟩
  rw [body_eq, List.mem_append, List.mem_append, List.replicate_succ, List.cons_append]
  exact .inl (.inr (mem_clusterStatements hd h))

/-- What each cluster prints of its own is printed at any depth. -/
theorem prints_of_own {α : Type} {own all : Cluster → List α} {written : α → List Char}
    (hall : ∀ c : Cluster, all c = own c ++ c.clusters.flatMap all)
    (hown : ∀ c, ∀ a ∈ own c, written a ∈ body c) {c : Cluster} {a : α} (h : a ∈ all c) :
    Prints c (written a) := by
  induction c using Cluster.induction with
  | step c ih =>
    rw [hall, List.mem_append] at h
    rcases h with h | h
    · exact ⟨0, hown c a h⟩
    · obtain ⟨d, hd, ha⟩ := List.mem_flatMap.mp h
      exact (ih d hd ha).outward hd

theorem prints_node {c : Cluster} {n : Node} (h : n ∈ c.allNodes) :
    Prints c (nodeStatement n) := by
  refine prints_of_own Cluster.allNodes_eq (fun c n hn => ?_) h
  rw [body_eq]
  exact List.mem_append_left _ (List.mem_append_left _ (List.mem_map_of_mem hn))

theorem prints_edge {c : Cluster} {e : Edge} (h : e ∈ c.allEdges) :
    Prints c (edgeStatement e) := by
  refine prints_of_own Cluster.allEdges_eq (fun c e he => ?_) h
  rw [body_eq]
  exact List.mem_append_right _ (List.mem_map_of_mem he)

/-- **Edges end at boxes, but for colons.** A node and the end of an edge that are written for one
identifier have one name just if there is no colon in the path and the name that the identifier is
made of. So it is in the diagram of any modules: its nodes and its edges are printed, at the end of
an edge stands the written form of `endName` and perhaps a port, and an edge to the identifier of a
node ends at this node just if the identifier has no colon. -/
theorem edge_ends_at_box_iff (path name : String) (ms : List Module) :
    (endName (NodeId.within path name) = boxName (NodeId.within path name) ↔
      ':' ∉ path.toList ∧ ':' ∉ name.toList) ∧
    ∀ n ∈ (Diagram.ofModules ms).root.allNodes,
      ∀ e ∈ (Diagram.ofModules ms).root.allEdges, e.head = n.id →
        Prints (Diagram.ofModules ms).root
          (line (quote n.id.toList ++ brackets (labelFirst n.attributes))) ∧
        Prints (Diagram.ofModules ms).root
          (line (endNode e.tail.toList ++ port e.tail.toList ++ " -> ".toList
            ++ (endNode e.head.toList ++ port e.head.toList)
            ++ brackets (labelFirst e.attributes))) ∧
        (port e.head.toList = [] ∨ ∃ more, port e.head.toList = ':' :: more) ∧
        (endName e.head = boxName n.id ↔ ':' ∉ n.id.toList) := by
  refine ⟨?identifier, fun n hn e he hhead => ⟨prints_node hn, ?edge, port_eq_nil_or _, ?ends⟩⟩
  case identifier =>
    rw [endName_eq_boxName_iff, colon_mem_within, not_or]
  case edge =>
    rw [← quoteEnd_eq, ← quoteEnd_eq]
    exact prints_edge he
  case ends =>
    rw [hhead]
    exact endName_eq_boxName_iff

/-- A module with a class and a subclass of it. -/
def folder (name : String) : Module where
  header := { name }
  classes := [
    { header := { name := "Base" } },
    { header := { name := "Page" }, base := some (.pair name "Base") }]

theorem edge_ends_at_box_iff_core :
    ∃ n ∈ (Diagram.ofModules [folder "core"]).root.allNodes,
      ∃ e ∈ (Diagram.ofModules [folder "core"]).root.allEdges,
        e.head = n.id ∧ endName e.head = boxName n.id := by
  have hn : Diagram.classNode "core" { header := { name := "Base" } } ∈
      (Diagram.ofModules [folder "core"]).root.allNodes := List.mem_cons_self
  have he : Diagram.inheritance "core|Page" (.pair "core" "Base") ∈
      (Diagram.ofModules [folder "core"]).root.allEdges := List.mem_cons_self
  obtain ⟨-, hends⟩ := edge_ends_at_box_iff "core" "Base" [folder "core"]
  obtain ⟨-, -, -, hmeet⟩ := hends _ hn _ he rfl
  exact ⟨_, hn, _, he, rfl, hmeet.mpr (by decide)⟩

/-- In the name of a module, a colon leads an edge away from the box it points at. -/
theorem colon_parts_edge_from_box :
    ∃ n ∈ (Diagram.ofModules [folder "core:api"]).root.allNodes,
      ∃ e ∈ (Diagram.ofModules [folder "core:api"]).root.allEdges,
        e.head = n.id ∧ boxName n.id = "core:api|Base".toList ∧ endName e.head = "core".toList := by
  have hn : Diagram.classNode "core:api" { header := { name := "Base" } } ∈
      (Diagram.ofModules [folder "core:api"]).root.allNodes := List.mem_cons_self
  have he : Diagram.inheritance "core:api|Page" (.pair "core:api" "Base") ∈
      (Diagram.ofModules [folder "core:api"]).root.allEdges := List.mem_cons_self
  exact ⟨_, hn, _, he, by decide, by decide, by decide⟩

end ClassDiagram.Dot
