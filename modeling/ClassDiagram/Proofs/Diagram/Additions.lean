import ClassDiagram.Proofs.Diagram.Traversal
import ClassDiagram.Proofs.Dictionary
import ClassDiagram.Proofs.Log

/-!
What is added to graphs that are drawn by hand, and that traversals list it. Handles of the clusters
at any depth come from the steps themselves, so the additions of a run are read off its steps and
the handles before each (`Desk.additions`). A step gives a cluster the part that it adds and leaves
the others as they are (`Desk.stepped`), so behind a run each cluster holds what was added to it, in
order (`Desk.drawn_behind`). The traversals list all of it, each part once
(`Desk.traversals_list_additions`).
-/

namespace ClassDiagram.Diagram

/-! ## Additions -/

/-- What is added to a cluster. The way of a new cluster is that of the handle that it gets. -/
inductive Part
  | node (n : Node)
  | edge (e : Edge)
  | cluster (way : Way) (name : String)

namespace Part

def node? : Part → Option Node
  | node n => some n
  | _ => none

def edge? : Part → Option Edge
  | edge e => some e
  | _ => none

def cluster? : Part → Option (Way × String)
  | cluster way name => some (way, name)
  | _ => none

end Part

/-- A part, and the way of the handle that it was added on. -/
structure Addition where
  on : Way
  part : Part

namespace Addition

variable {α : Type}

/-- The parts of a kind among additions, in order. -/
def parts (kind : Part → Option α) (added : List Addition) : List α :=
  added.filterMap fun a => kind a.part

/-- Those that were added on the cluster that a way leads to. -/
def partsOn (kind : Part → Option α) (w : Way) (added : List Addition) : List α :=
  parts kind (added.filter (·.on = w))

theorem partsOn_concat (kind : Part → Option α) (w : Way) (added : List Addition) (a : Addition) :
    partsOn kind w (added ++ [a]) =
      partsOn kind w added ++ if a.on = w then (kind a.part).toList else [] := by
  rw [partsOn, partsOn, parts, parts, List.filter_append, List.filterMap_append]
  congr 1
  by_cases hw : a.on = w
  · cases hkind : kind a.part <;> simp [hw, hkind]
  · simp [hw]

theorem partsOn_eq_nil {kind : Part → Option α} {w : Way} {added : List Addition}
    (h : ∀ a ∈ added, a.on ≠ w) : partsOn kind w added = [] := by
  have hnone : added.filter (·.on = w) = [] := List.filter_eq_nil_iff.mpr fun a ha => by
    simpa using h a ha
  rw [partsOn, hnone]
  rfl

/-- Additions put together by where they were made are all additions, each once. -/
theorem perm_flatMap_partsOn (kind : Part → Option α) {ws : List Way} (hws : ws.Nodup)
    {added : List Addition} (h : ∀ a ∈ added, a.on ∈ ws) :
    (ws.flatMap fun w => partsOn kind w added).Perm (parts kind added) := by
  induction ws generalizing added with
  | nil =>
    have hnone : added = [] := List.eq_nil_iff_forall_not_mem.mpr fun a ha => nomatch h a ha
    rw [hnone]
    exact .nil
  | cons w ws ih =>
    obtain ⟨hw, hws⟩ := List.nodup_cons.mp hws
    have hrest : ∀ a ∈ added.filter (fun a => !decide (a.on = w)), a.on ∈ ws := by
      intro a ha
      obtain ⟨hmem, hne⟩ := List.mem_filter.mp ha
      exact (List.mem_cons.mp (h a hmem)).resolve_left (by simpa using hne)
    have hothers : (ws.flatMap fun v => partsOn kind v added) =
        ws.flatMap fun v => partsOn kind v (added.filter fun a => !decide (a.on = w)) := by
      refine List.flatMap_congr fun v hv => ?_
      have hne : v ≠ w := fun hvw => hw (hvw ▸ hv)
      rw [partsOn, partsOn, List.filter_filter]
      congr 1
      refine List.filter_congr fun a _ => ?_
      by_cases hav : a.on = v <;> simp [hav, hne]
    rw [List.flatMap_cons, hothers]
    refine ((ih hws hrest).append_left _).trans ?_
    rw [partsOn, parts, parts, parts, ← List.filterMap_append]
    exact (List.filter_append_perm _ added).filterMap _

end Addition

open Addition (parts partsOn)

/-! ## Clusters with additions -/

namespace Cluster

/-- A cluster at a way holds what was added on it, in order. -/
structure Holding.OfAdditions (h : Holding) (w : Way) (added : List Addition) : Prop where
  nodes : h.nodes = partsOn Part.node? w added
  edges : h.edges = partsOn Part.edge? w added
  /-- The handle of a cluster leads to its place among those that the same cluster holds. -/
  clusters : h.names.mapIdx (fun i name => (w ++ [i], name)) = partsOn Part.cluster? w added

def Holding.empty : Holding := ⟨[], [], []⟩

def Holding.add (h : Holding) : Part → Holding
  | .node n => { h with nodes := h.nodes ++ [n] }
  | .edge e => { h with edges := h.edges ++ [e] }
  | .cluster _ name => { h with names := h.names ++ [name] }

/-- All clusters in a cluster hold what was added on them, and nothing was added elsewhere. -/
structure DrawnBy (c : Cluster) (added : List Addition) : Prop where
  placed : ∀ a ∈ added, (c.holding? a.on).isSome
  held : ∀ w h, c.holding? w = some h → h.OfAdditions w added

/-- One cluster is another with one more addition. -/
structure Gains (c : Cluster) (a : Addition) (c' : Cluster) : Prop where
  gained : ∃ h, c.holding? a.on = some h ∧ c'.holding? a.on = some (h.add a.part) ∧
    ∀ way name, a.part = .cluster way name → way = a.on ++ [h.names.length]
  others : ∀ w, w ≠ a.on → c'.holding? w = c.holding? w ∨
    c.holding? w = none ∧ c'.holding? w = some .empty

variable {c c' : Cluster} {added : List Addition} {a : Addition} {w : Way}

theorem Holding.OfAdditions.add {h : Holding} (hh : h.OfAdditions a.on added)
    (hway : ∀ way name, a.part = .cluster way name → way = a.on ++ [h.names.length]) :
    (h.add a.part).OfAdditions a.on (added ++ [a]) := by
  obtain ⟨hnodes, hedges, hclusters⟩ := hh
  obtain ⟨on, part⟩ := a
  constructor <;> rw [Addition.partsOn_concat, if_pos rfl]
  · rw [← hnodes]
    cases part <;> simp [Holding.add, Part.node?]
  · rw [← hedges]
    cases part <;> simp [Holding.add, Part.edge?]
  · rw [← hclusters]
    cases part with
    | cluster way name => simp [Holding.add, Part.cluster?, hway way name rfl]
    | _ => simp [Holding.add, Part.cluster?]

theorem Holding.OfAdditions.elsewhere {h : Holding} (hh : h.OfAdditions w added) (hw : w ≠ a.on) :
    h.OfAdditions w (added ++ [a]) := by
  obtain ⟨hnodes, hedges, hclusters⟩ := hh
  constructor <;> rw [Addition.partsOn_concat, if_neg (Ne.symm hw), List.append_nil]
  · exact hnodes
  · exact hedges
  · exact hclusters

theorem Holding.ofAdditions_empty (h : ∀ a ∈ added, a.on ≠ w) :
    Holding.empty.OfAdditions w added := by
  constructor <;> rw [Addition.partsOn_eq_nil h] <;> rfl

theorem Gains.isSome (h : c.Gains a c') (hw : (c.holding? w).isSome) :
    (c'.holding? w).isSome := by
  by_cases hon : w = a.on
  · obtain ⟨_, -, hgained, -⟩ := h.gained
    rw [hon, hgained]
    rfl
  · rcases h.others w hon with hsame | ⟨hnone, -⟩
    · rw [hsame]
      exact hw
    · rw [hnone] at hw
      cases hw

/-- **One more addition, and the cluster is drawn by one more.** -/
theorem DrawnBy.concat (hc : c.DrawnBy added) (hgains : c.Gains a c') :
    c'.DrawnBy (added ++ [a]) := by
  obtain ⟨h, hbefore, hbehind, hway⟩ := hgains.gained
  constructor
  case placed =>
    intro b hb
    refine hgains.isSome ?_
    rcases List.mem_append.mp hb with hb | hb
    · exact hc.placed b hb
    · rw [List.mem_singleton.mp hb, hbefore]
      rfl
  case held =>
    intro w k hk
    by_cases hw : w = a.on
    · rw [hw, hbehind] at hk
      cases hk
      rw [hw]
      exact (hc.held _ h hbefore).add hway
    · refine Holding.OfAdditions.elsewhere ?_ hw
      rcases hgains.others w hw with hsame | ⟨hnone, hempty⟩
      · exact hc.held w k (hsame ▸ hk)
      · rw [hempty] at hk
        cases hk
        refine Holding.ofAdditions_empty fun b hb hon => ?_
        have hplaced := hc.placed b hb
        rw [hon, hnone] at hplaced
        cases hplaced

theorem drawnBy_nil (h : c.nodes = [] ∧ c.edges = [] ∧ c.clusters = []) :
    c.DrawnBy [] where
  placed := List.forall_mem_nil _
  held w k hk := by
    obtain ⟨hnodes, hedges, hclusters⟩ := h
    cases w with
    | nil =>
      cases hk
      constructor <;> simp [holding, hnodes, hedges, hclusters, partsOn, parts]
    | cons i w =>
      rw [holding?, at?_cons, hclusters] at hk
      cases hk

theorem DrawnBy.congr (hc : c.DrawnBy added) (h : ∀ w, c'.holding? w = c.holding? w) :
    c'.DrawnBy added where
  placed b hb := h b.on ▸ hc.placed b hb
  held w k hk := hc.held w k (h w ▸ hk)

section Gains

variable {d : Cluster} {v : Way} (hd : c.at? v = some d)
include hd

theorem holding?_eq : c.holding? v = some d.holding := by
  rw [holding?, hd]
  rfl

/-- A change that adds a node or an edge to a cluster. -/
theorem gains_of_keeps {f : Cluster → Cluster} {part : Part} (hname : ∀ d, (f d).name = d.name)
    (hclusters : ∀ d, (f d).clusters = d.clusters)
    (hadd : ∀ d, (f d).holding = d.holding.add part) (hpart : part.cluster? = none) :
    c.Gains ⟨v, part⟩ (c.modifyAt f v) where
  gained := by
    refine ⟨d.holding, holding?_eq hd, ?_, fun way name h => ?_⟩
    · rw [holding?_modifyAt hname hclusters, if_pos rfl, hd, Option.map_some, hadd]
    · cases (congrArg Part.cluster? h).symm.trans hpart
  others w hw := .inl (by rw [holding?_modifyAt hname hclusters, if_neg hw])

theorem gains_addNode (n : Node) : c.Gains ⟨v, .node n⟩ (c.modifyAt (·.addNode n) v) :=
  gains_of_keeps hd (fun _ => rfl) (fun _ => rfl) (fun _ => rfl) rfl

theorem gains_addEdge (e : Edge) : c.Gains ⟨v, .edge e⟩ (c.modifyAt (·.addEdge e) v) :=
  gains_of_keeps hd (fun _ => rfl) (fun _ => rfl) (fun _ => rfl) rfl

theorem gains_addCluster (name : String) :
    c.Gains ⟨v, .cluster (v ++ [d.clusters.length]) name⟩
      (c.modifyAt (·.addCluster { name }) v) where
  gained := by
    refine ⟨d.holding, holding?_eq hd, ?_, fun way other h => ?_⟩
    · rw [holding?_addCluster hd, if_pos rfl]
      rfl
    · cases h
      simp [holding]
  others w hw := by
    rw [holding?_addCluster hd, if_neg hw]
    split
    · rename_i hnew
      refine .inr ⟨?_, rfl⟩
      rw [hnew, holding?, at?_concat, hd, Option.bind_some, List.getElem?_eq_none (Nat.le_refl _)]
      rfl
    · exact .inl rfl

end Gains

/-- The traversals of a cluster list what was added to it and to the clusters in it. -/
structure Traversed (c : Cluster) (added : List Addition) : Prop where
  /-- The clusters stand at the ways, in their order. -/
  clusters : (c :: c.allClusters).map some = c.ways.map (c.at? ·)
  /-- A cluster comes before those in it, and these before the next one beside it. -/
  ordered : c.ways.Pairwise (· < ·)
  /-- The clusters that were added are listed, each once, behind the outermost one. -/
  clustersOnce : c.ways.Perm ([] :: (parts Part.cluster? added).map Prod.fst)
  /-- A cluster holds what was added on it, in order, clusters in their places. -/
  held : ∀ w d, c.at? w = some d → d.nodes = partsOn Part.node? w added ∧
    d.edges = partsOn Part.edge? w added ∧
    d.clusters.mapIdx (fun i inner => (w ++ [i], inner.name)) = partsOn Part.cluster? w added
  /-- The nodes are those of the outermost cluster, and then those of each cluster. -/
  nodes : c.allNodes = c.nodes ++ c.allClusters.flatMap Cluster.nodes
  edges : c.allEdges = c.edges ++ c.allClusters.flatMap Cluster.edges
  nodesOnce : c.allNodes.Perm (parts Part.node? added)
  edgesOnce : c.allEdges.Perm (parts Part.edge? added)

theorem DrawnBy.held_at {d : Cluster} (hc : c.DrawnBy added) (hd : c.at? w = some d) :
    d.holding.OfAdditions w added := hc.held w _ (holding?_eq hd)

/-- A cluster has, all in all, the parts that were added, each once. -/
theorem DrawnBy.perm_parts {α : Type} (hc : c.DrawnBy added) (kind : Part → Option α) :
    (c.ways.flatMap fun w => partsOn kind w added).Perm (parts kind added) := by
  refine Addition.perm_flatMap_partsOn kind (nodup_ways c) fun a ha => ?_
  exact mem_ways_iff.mpr (isSome_holding?_iff.mp (hc.placed a ha))

/-- **Traversals list what was added.** -/
theorem DrawnBy.traversed (hc : c.DrawnBy added) : c.Traversed added where
  clusters := (map_at?_ways c).symm
  ordered := pairwise_ways c
  clustersOnce := by
    have hplaces : ∀ w ∈ c.ways, c.waysOn w = (partsOn Part.cluster? w added).map Prod.fst := by
      intro w hw
      obtain ⟨d, hd⟩ := mem_ways_iff.mp hw
      rw [← (hc.held_at hd).clusters, waysOn, hd]
      apply List.ext_getElem <;> simp [holding]
    refine (ways_perm c).trans (.cons [] ?_)
    rw [List.flatMap_congr hplaces, ← List.map_flatMap]
    exact (hc.perm_parts Part.cluster?).map Prod.fst
  held w d hd := by
    obtain ⟨hnodes, hedges, hclusters⟩ := hc.held_at hd
    refine ⟨hnodes, hedges, ?_⟩
    rw [← hclusters]
    apply List.ext_getElem <;> simp [holding]
  nodes := allNodes_eq_flatMap c
  edges := allEdges_eq_flatMap c
  nodesOnce := by
    have hnodes := flatMap_ways fun w d hd => (hc.held_at hd).nodes.symm
    have htraversal : c.allNodes = (c :: c.allClusters).flatMap Cluster.nodes :=
      allNodes_eq_flatMap c
    rw [htraversal]
    exact hnodes ▸ hc.perm_parts Part.node?
  edgesOnce := by
    have hedges := flatMap_ways fun w d hd => (hc.held_at hd).edges.symm
    have htraversal : c.allEdges = (c :: c.allClusters).flatMap Cluster.edges :=
      allEdges_eq_flatMap c
    rw [htraversal]
    exact hedges ▸ hc.perm_parts Part.edge?

end Cluster

/-! ## Steps -/

namespace Canvas

theorem root_modifyAt (f : Cluster → Cluster) (way : Way) (canvas : Canvas) :
    (canvas.modifyAt f way).root = canvas.root.modifyAt f way := by
  cases canvas <;> rfl

/-- A way leads to the same cluster in a canvas and in its root. -/
theorem exists_at? {canvas : Canvas} {way : Way} {c : Cluster} (h : canvas.root.at? way = some c) :
    ∃ k, canvas.at? way = some k ∧ k.root = c := by
  rw [Canvas.at?]
  split
  · rename_i hway
    rw [hway] at h
    exact ⟨canvas, rfl, Option.some.inj h⟩
  · rw [h]
    exact ⟨_, rfl, rfl⟩

end Canvas

namespace Desk

/-- What an edit adds, and the place of the canvas. It says so by the handle that it names, and, for
a cluster, by the handle that it leaves behind. -/
def addition? (d : Desk) : Edit → Option (Nat × Addition)
  | .addNode on n => (d.handles.get? on).map fun (place, way) => (place, ⟨way, .node n⟩)
  | .addEdge on e => (d.handles.get? on).map fun (place, way) => (place, ⟨way, .edge e⟩)
  | .addCluster on id name => do
    let (place, way) ← d.handles.get? on
    let (_, new) ← (d.step (.addCluster on id name)).1.handles.get? id
    return (place, ⟨way, .cluster new name⟩)
  | _ => none

/-- What an edit adds to the canvas at a place. -/
def additionsOf (d : Desk) (place : Nat) (e : Edit) : List Addition :=
  match d.addition? e with
  | some (p, a) => if p = place then [a] else []
  | none => []

/-- What edits add to the canvas at a place, in order. -/
def additions (d : Desk) (place : Nat) : List Edit → List Addition
  | [] => []
  | e :: es => d.additionsOf place e ++ (d.step e).1.additions place es

/-- The desk behind edits. -/
def behind (d : Desk) (edits : List Edit) : Desk := edits.foldl (fun d e => (d.step e).1) d

/-- Each handle leads to a cluster. -/
def Sound (d : Desk) : Prop :=
  ∀ id place way, d.handles.get? id = some (place, way) →
    ∃ canvas c, d.canvases[place]? = some canvas ∧ canvas.root.at? way = some c

/-- What an edit can do to a desk. -/
inductive Stepped (d : Desk) (e : Edit) : Desk → Prop
  | kept (hnone : d.addition? e = none) : d.Stepped e d
  | opened (id : String) {canvas : Canvas} (hnone : d.addition? e = none)
      (hempty : canvas.root.nodes = [] ∧ canvas.root.edges = [] ∧ canvas.root.clusters = []) :
    d.Stepped e (d.addCanvas id canvas)
  | redrawn {place : Nat} {canvas canvas' : Canvas} (hnone : d.addition? e = none)
      (hcanvas : d.canvases[place]? = some canvas)
      (hsame : ∀ w, canvas'.root.holding? w = canvas.root.holding? w) :
    d.Stepped e (d.replace place canvas')
  | drawn {place : Nat} {canvas canvas' : Canvas} {a : Addition}
      {handles : Dictionary (Nat × Way)} (hsome : d.addition? e = some (place, a))
      (hcanvas : d.canvases[place]? = some canvas)
      (hgains : canvas.root.Gains a canvas'.root)
      (hhandles : ∀ id p w, handles.get? id = some (p, w) → d.handles.get? id = some (p, w) ∨
        p = place ∧ (canvas'.root.holding? w).isSome) :
    d.Stepped e { d.replace place canvas' with handles }

variable {d d' : Desk} {e : Edit} {reply : EditReply}

theorem step_of_ok (h : d.perform e = .ok (d', reply)) : d.step e = (d', .ok reply) := by
  rw [step, h]

theorem step_of_error {fault : EditError} (h : d.perform e = .error fault) :
    d.step e = (d, .error fault) := by
  rw [step, h]

/-- An edit keeps a desk if it would keep it if it succeeded. -/
theorem Stepped.of_perform (hnone : d.addition? e = none)
    (h : ∀ d' reply, d.perform e = .ok (d', reply) → d.Stepped e d') :
    d.Stepped e (d.step e).1 := by
  cases hperform : d.perform e with
  | ok result =>
    rw [step_of_ok hperform]
    exact h _ _ hperform
  | error fault =>
    rw [step_of_error hperform]
    exact .kept hnone

section LookUp

variable {on : String} {place : Nat} {canvas : Canvas} {way : Way}

theorem lookUp_ok (h : d.lookUp on = .ok (place, canvas, way)) :
    d.handles.get? on = some (place, way) ∧ d.canvases[place]? = some canvas := by
  rw [lookUp] at h
  split at h
  · cases h
  · rename_i hhandle
    split at h
    · cases h
    · rename_i hcanvas
      cases h
      exact ⟨hhandle, hcanvas⟩

theorem modify_of_lookUp (h : d.lookUp on = .ok (place, canvas, way)) (f : Cluster → Cluster) :
    d.modify on f = .ok (d.replace place (canvas.modifyAt f way)) := by
  rw [modify, h]
  rfl

end LookUp

/-- A handle is unknown, or it is found with its canvas and a cluster. -/
theorem Sound.lookUp (hd : d.Sound) (id : String) :
    (d.handles.get? id = none ∧ d.lookUp id = .error (.unknownHandle id)) ∨
    ∃ place canvas way c, d.handles.get? id = some (place, way) ∧
      d.canvases[place]? = some canvas ∧ canvas.root.at? way = some c ∧
      d.lookUp id = .ok (place, canvas, way) := by
  cases hhandle : d.handles.get? id with
  | none =>
    refine .inl ⟨rfl, ?_⟩
    rw [Desk.lookUp, hhandle]
  | some handle =>
    obtain ⟨place, way⟩ := handle
    obtain ⟨canvas, c, hcanvas, hc⟩ := hd id place way hhandle
    refine .inr ⟨place, canvas, way, c, rfl, hcanvas, hc, ?_⟩
    rw [Desk.lookUp, hhandle]
    simp only [hcanvas]

/-- A diagram that is changed is one of the canvases. -/
theorem modifyDiagram_ok {on part : String} {f : Diagram → Diagram} {diagram : Diagram}
    (h : d.modifyDiagram on part f = .ok (d', diagram)) :
    ∃ place old, d.canvases[place]? = some (.diagram old) ∧
      d' = d.replace place (.diagram (f old)) := by
  obtain ⟨found, hfound, h⟩ := except_bind_eq_ok.mp h
  split at h
  · cases h
    exact ⟨_, _, (lookUp_ok hfound).2, rfl⟩
  · cases h

/-- A part that is put into a cluster by a handle. -/
theorem stepped_of_modify {on : String} {part : Part} {f : Cluster → Cluster}
    (hadds : d.addition? e = (d.handles.get? on).map fun (place, way) => (place, ⟨way, part⟩))
    (hperform : d.perform e = (d.modify on f).map (·, reply))
    (hgains : ∀ {c d : Cluster} {v : Way}, c.at? v = some d → c.Gains ⟨v, part⟩ (c.modifyAt f v))
    (hd : d.Sound) : d.Stepped e (d.step e).1 := by
  rcases hd.lookUp on with
    ⟨hhandle, hlookUp⟩ | ⟨place, canvas, way, c, hhandle, hcanvas, hc, hlookUp⟩
  · rw [hhandle] at hadds
    rw [modify, hlookUp] at hperform
    rw [step_of_error hperform]
    exact .kept hadds
  · rw [hhandle] at hadds
    rw [modify_of_lookUp hlookUp] at hperform
    rw [step_of_ok hperform]
    refine .drawn hadds hcanvas ?_ fun _ _ _ h => .inl h
    rw [Canvas.root_modifyAt]
    exact hgains hc

theorem stepped_addCluster (hd : d.Sound) (on id name : String) :
    d.Stepped (.addCluster on id name) (d.step (.addCluster on id name)).1 := by
  rcases hd.lookUp on with
    ⟨hhandle, hlookUp⟩ | ⟨place, canvas, way, c, hhandle, hcanvas, hc, hlookUp⟩
  · have hperform : d.perform (.addCluster on id name) = .error (.unknownHandle on) := by
      rw [perform, hlookUp]
      rfl
    have hnone : d.addition? (.addCluster on id name) = none := by
      rw [addition?, hhandle]
      rfl
    rw [step_of_error hperform]
    exact .kept hnone
  · obtain ⟨k, hk, rfl⟩ := Canvas.exists_at? hc
    have hperform : d.perform (.addCluster on id name) = .ok
        ({ d.replace place (canvas.modifyAt (·.addCluster { name }) way) with
            handles := d.handles.put id (place, way ++ [k.root.clusters.length]) },
          .canvas (.cluster { name })) := by
      simp only [perform, hlookUp, Bind.bind, Except.bind, hk]
      rfl
    have hsome : d.addition? (.addCluster on id name) =
        some (place, ⟨way, .cluster (way ++ [k.root.clusters.length]) name⟩) := by
      rw [addition?, hhandle, step_of_ok hperform]
      simp [Dictionary.get?_put]
    have hgains := Cluster.gains_addCluster hc name
    rw [← Canvas.root_modifyAt] at hgains
    rw [step_of_ok hperform]
    refine .drawn hsome hcanvas hgains fun other p w hother => ?_
    rw [Dictionary.get?_put] at hother
    split at hother
    · cases hother
      refine .inr ⟨rfl, ?_⟩
      rw [Canvas.root_modifyAt, Cluster.holding?_addCluster hc, if_neg (by simp), if_pos rfl]
      rfl
    · exact .inl hother

/-- **Each edit does one of these.** -/
theorem stepped (hd : d.Sound) (e : Edit) : d.Stepped e (d.step e).1 := by
  cases e with
  | newDiagram id name => exact .opened id rfl ⟨rfl, rfl, rfl⟩
  | newCluster id name attributes => exact .opened id rfl ⟨rfl, rfl, rfl⟩
  | set on key value =>
    refine .of_perform rfl fun d' reply h => ?_
    obtain ⟨d₁, hmodify, h⟩ := except_bind_eq_ok.mp h
    obtain ⟨target, -, h⟩ := except_bind_eq_ok.mp h
    obtain ⟨⟨place, canvas, way⟩, hlookUp, hmodify⟩ := except_bind_eq_ok.mp hmodify
    cases hmodify
    cases h
    refine .redrawn rfl (lookUp_ok hlookUp).2 fun w => ?_
    rw [Canvas.root_modifyAt]
    exact Cluster.holding?_set key value.toText way w canvas.root
  | setNodeDefault on key value | setEdgeDefault on key value =>
    refine .of_perform rfl fun d' reply h => ?_
    obtain ⟨⟨d₁, diagram⟩, hmodify, h⟩ := except_bind_eq_ok.mp h
    cases h
    obtain ⟨place, diagram, hcanvas, rfl⟩ := modifyDiagram_ok hmodify
    exact .redrawn rfl hcanvas fun _ => rfl
  | addCluster on id name => exact stepped_addCluster hd on id name
  | addNode on n => exact stepped_of_modify rfl rfl (Cluster.gains_addNode · n) hd
  | addEdge on edge => exact stepped_of_modify rfl rfl (Cluster.gains_addEdge · edge) hd
  | traverse on | display on | dot on =>
    refine .of_perform rfl fun d' reply h => ?_
    obtain ⟨_, -, h⟩ := except_bind_eq_ok.mp h
    cases h
    exact .kept rfl

/-! ## Runs -/

/-- The canvases are drawn by these additions, and each handle leads to a cluster of theirs. -/
structure Drawn (d : Desk) (added : Nat → List Addition) : Prop where
  sound : d.Sound
  canvases : ∀ (place : Nat) (canvas : Canvas), d.canvases[place]? = some canvas →
    canvas.root.DrawnBy (added place)
  /-- Nothing is added to a canvas that is still to come. -/
  later : ∀ place, d.canvases[place]? = none → added place = []

variable {added added' : Nat → List Addition}

theorem Drawn.addCanvas (hd : d.Drawn added) {canvas : Canvas}
    (hempty : canvas.root.nodes = [] ∧ canvas.root.edges = [] ∧ canvas.root.clusters = [])
    (id : String) : (d.addCanvas id canvas).Drawn added where
  sound other place way h := by
    rw [Desk.addCanvas, Dictionary.get?_put] at h
    split at h
    · cases h
      exact ⟨canvas, canvas.root, List.getElem?_concat_length, rfl⟩
    · obtain ⟨k, c, hk, hc⟩ := hd.sound other place way h
      obtain ⟨hlt, -⟩ := List.getElem?_eq_some_iff.mp hk
      exact ⟨k, c, (List.getElem?_append_left hlt).trans hk, hc⟩
  canvases place k hk := by
    rw [Desk.addCanvas, List.getElem?_append] at hk
    split at hk
    · exact hd.canvases place k hk
    · rename_i hlt
      rw [List.mem_singleton.mp (List.mem_of_getElem? hk),
        hd.later place (List.getElem?_eq_none (Nat.le_of_not_lt hlt))]
      exact Cluster.drawnBy_nil hempty
  later place h := by
    rw [Desk.addCanvas, List.getElem?_eq_none_iff, List.length_append] at h
    exact hd.later place (List.getElem?_eq_none (by omega))

/-- A canvas that is replaced by one with all its clusters. -/
theorem Drawn.replace (hd : d.Drawn added) {place : Nat} {canvas canvas' : Canvas}
    {handles : Dictionary (Nat × Way)} (hcanvas : d.canvases[place]? = some canvas)
    (hdrawn : canvas'.root.DrawnBy (added' place)) (hothers : ∀ p, p ≠ place → added' p = added p)
    (hkeeps : ∀ w, (canvas.root.holding? w).isSome → (canvas'.root.holding? w).isSome)
    (hhandles : ∀ id p w, handles.get? id = some (p, w) → d.handles.get? id = some (p, w) ∨
      p = place ∧ (canvas'.root.holding? w).isSome) :
    Drawn { d.replace place canvas' with handles } added' := by
  obtain ⟨hlt, -⟩ := List.getElem?_eq_some_iff.mp hcanvas
  have hself : (d.canvases.set place canvas')[place]? = some canvas' :=
    List.getElem?_set_self hlt
  have hother : ∀ p, p ≠ place → (d.canvases.set place canvas')[p]? = d.canvases[p]? :=
    fun p hp => List.getElem?_set_ne (Ne.symm hp)
  refine ⟨fun id p w h => ?sound, fun p k hk => ?canvases, fun p h => ?later⟩
  case sound =>
    by_cases hp : p = place
    · have hsome : (canvas'.root.holding? w).isSome := by
        rcases hhandles id p w h with hold | ⟨-, hnew⟩
        · obtain ⟨k, c, hk, hc⟩ := hd.sound id p w hold
          cases (hp ▸ hk).symm.trans hcanvas
          exact hkeeps w (Cluster.isSome_holding?_iff.mpr ⟨c, hc⟩)
        · exact hnew
      obtain ⟨c, hc⟩ := Cluster.isSome_holding?_iff.mp hsome
      exact ⟨canvas', c, hp ▸ hself, hc⟩
    · have hold := (hhandles id p w h).resolve_right fun hnew => hp hnew.1
      obtain ⟨k, c, hk, hc⟩ := hd.sound id p w hold
      exact ⟨k, c, (hother p hp).trans hk, hc⟩
  case canvases =>
    by_cases hp : p = place
    · subst hp
      cases hself.symm.trans hk
      exact hdrawn
    · rw [hothers p hp]
      exact hd.canvases p k ((hother p hp).symm.trans hk)
  case later =>
    have hp : p ≠ place := fun hp => by
      subst hp
      cases hself.symm.trans h
    rw [hothers p hp]
    exact hd.later p ((hother p hp).symm.trans h)

/-- **A step draws what it adds.** -/
theorem Stepped.drawn_behind (h : d.Stepped e d') (hd : d.Drawn added) :
    d'.Drawn fun place => added place ++ d.additionsOf place e := by
  cases h with
  | kept hnone =>
    simp only [additionsOf, hnone, List.append_nil]
    exact hd
  | opened id hnone hempty =>
    simp only [additionsOf, hnone, List.append_nil]
    exact hd.addCanvas hempty id
  | redrawn hnone hcanvas hsame =>
    simp only [additionsOf, hnone, List.append_nil]
    refine hd.replace hcanvas ((hd.canvases _ _ hcanvas).congr hsame) (fun _ _ => rfl) ?_
      fun _ _ _ h => .inl h
    intro w hw
    rwa [hsame]
  | drawn hsome hcanvas hgains hhandles =>
    refine hd.replace hcanvas ?_ ?_ (fun _ => hgains.isSome) hhandles
    · simp only [additionsOf, hsome, if_true]
      exact (hd.canvases _ _ hcanvas).concat hgains
    · intro p hp
      simp only [additionsOf, hsome, if_neg (Ne.symm hp), List.append_nil]

/-- **Behind a run all is drawn that was added.** -/
theorem drawn_behind (hd : d.Drawn added) (edits : List Edit) :
    (d.behind edits).Drawn fun place => added place ++ d.additions place edits := by
  induction edits generalizing d added with
  | nil =>
    simp only [additions, List.append_nil]
    exact hd
  | cons e edits ih =>
    have hstep := (stepped hd.sound e).drawn_behind hd
    simp only [additions, ← List.append_assoc]
    exact ih hstep

theorem drawn_nil : ({} : Desk).Drawn fun _ => [] where
  sound _ _ _ h := nomatch h
  canvases _ _ h := nomatch h
  later _ _ := rfl

theorem run_append (d : Desk) (edits more : List Edit) :
    d.run (edits ++ more) = d.run edits ++ (d.behind edits).run more := by
  induction edits generalizing d with
  | nil => rfl
  | cons e edits ih =>
    have hrest := ih (d.step e).1
    rw [List.cons_append, run, run]
    exact congrArg ((d.step e).2 :: ·) hrest

/-- **Traversals list what was added, each part once.** Behind any edits of an empty desk, the
traversals of a canvas list the clusters, nodes and edges that were added to it by handles at any
depth; and each handle is answered with the traversals of the cluster that it leads to. -/
theorem traversals_list_additions (edits : List Edit) {place : Nat} {canvas : Canvas}
    (h : (behind {} edits).canvases[place]? = some canvas) :
    canvas.root.Traversed (additions {} place edits) ∧
    ∀ on way, (behind {} edits).handles.get? on = some (place, way) →
      ∃ c, canvas.root.at? way = some c ∧
        run {} (edits ++ [.traverse on]) =
          run {} edits ++ [.ok (.traversal c.allNodes c.allEdges c.allClusters)] := by
  have hdrawn := drawn_behind drawn_nil edits
  refine ⟨(hdrawn.canvases place canvas h).traversed, fun on way hhandle => ?_⟩
  rcases hdrawn.sound.lookUp on with ⟨hnone, -⟩ | ⟨_, _, _, c, hfound, hk, hc, hlookUp⟩
  · cases hhandle.symm.trans hnone
  cases hhandle.symm.trans hfound
  cases h.symm.trans hk
  obtain ⟨target, htarget, rfl⟩ := Canvas.exists_at? hc
  have hperform : (behind {} edits).perform (.traverse on) = .ok (behind {} edits,
      .traversal target.root.allNodes target.root.allEdges target.root.allClusters) := by
    simp only [perform, Desk.target, hlookUp, Bind.bind, Except.bind, htarget]
    rfl
  refine ⟨target.root, hc, ?_⟩
  rw [run_append, run, step_of_ok hperform]
  rfl

/-- An island with a town and a wood, the wood drawn behind the sea beside the island. -/
def atlas : List Edit :=
  [.newDiagram "atlas" "Atlas", .addCluster "atlas" "island" "Island",
    .addCluster "island" "town" "Town", .addCluster "atlas" "sea" "Sea",
    .addNode "sea" { id := "reef" }, .addNode "town" { id := "harbour" },
    .addEdge "sea" { tail := "harbour", head := "reef" }, .addCluster "island" "wood" "Wood",
    .addNode "atlas" { id := "legend" }]

theorem traversals_list_additions_atlas :
    ∃ canvas island, (behind {} atlas).canvases[0]? = some canvas ∧
      canvas.root.Traversed
        [⟨[], .cluster [0] "Island"⟩, ⟨[0], .cluster [0, 0] "Town"⟩, ⟨[], .cluster [1] "Sea"⟩,
          ⟨[1], .node { id := "reef" }⟩, ⟨[0, 0], .node { id := "harbour" }⟩,
          ⟨[1], .edge { tail := "harbour", head := "reef" }⟩, ⟨[0], .cluster [0, 1] "Wood"⟩,
          ⟨[], .node { id := "legend" }⟩] ∧
      canvas.root.allClusters.map Cluster.name = ["Island", "Town", "Wood", "Sea"] ∧
      canvas.root.allNodes.map Node.id = ["legend", "harbour", "reef"] ∧
      canvas.root.at? [0] = some island ∧ island.allClusters.map Cluster.name = ["Town", "Wood"] ∧
      run {} (atlas ++ [.traverse "island"]) = run {} atlas ++
        [.ok (.traversal island.allNodes island.allEdges island.allClusters)] := by
  obtain ⟨htraversed, hhandles⟩ := @traversals_list_additions atlas 0 _ rfl
  obtain ⟨island, hisland, hrun⟩ := hhandles "island" [0] rfl
  refine ⟨_, island, rfl, htraversed, rfl, rfl, hisland, ?_, hrun⟩
  cases hisland
  rfl

end Desk

end ClassDiagram.Diagram
