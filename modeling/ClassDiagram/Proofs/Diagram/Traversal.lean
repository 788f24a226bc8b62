import Mathlib.Data.List.Nodup
import ClassDiagram.Diagram.Editing
import ClassDiagram.Proofs.Diagram.Forest

/-!
The clusters in a cluster and the ways to them. Each way that leads somewhere is listed once, in
lexicographic order (`pairwise_ways`, `mem_ways_iff`), and the traversals follow this list: that of
the clusters is it (`map_at?_ways`), and those of nodes and edges visit the clusters in its order
(`allNodes_eq_flatMap`, `allEdges_eq_flatMap`). A change at one way is seen at this way and below it
(`at?_modifyAt_append`), and the other clusters hold what they held (`holding?_modifyAt`).
-/

namespace ClassDiagram.Diagram.Cluster

/-! ## Ways -/

@[simp] theorem at?_nil (c : Cluster) : c.at? [] = some c := rfl

theorem at?_cons (c : Cluster) (i : Nat) (w : Way) :
    c.at? (i :: w) = c.clusters[i]?.bind (at? w) := rfl

theorem at?_append (c : Cluster) (v w : Way) : c.at? (v ++ w) = (c.at? v).bind (at? w) := by
  induction v generalizing c with
  | nil => rfl
  | cons i v ih =>
    rw [List.cons_append, at?_cons, at?_cons]
    cases c.clusters[i]? with
    | none => rfl
    | some d => exact ih d

theorem at?_concat (c : Cluster) (v : Way) (i : Nat) :
    c.at? (v ++ [i]) = (c.at? v).bind fun d => d.clusters[i]? := by
  rw [at?_append]
  congr 1
  funext d
  rw [at?_cons]
  cases d.clusters[i]? <;> rfl

/-- The ways from a cluster to itself and to the clusters in it, outer ones first. -/
def ways : Cluster → List Way
  | ⟨_, _, _, _, clusters⟩ => [] :: waysFrom 0 clusters
where
  /-- The ways to the clusters from this place on. -/
  waysFrom : Nat → List Cluster → List Way
    | _, [] => []
    | i, c :: cs => c.ways.map (i :: ·) ++ waysFrom (i + 1) cs

theorem ways_eq (c : Cluster) : c.ways = [] :: ways.waysFrom 0 c.clusters := by
  cases c
  rfl

theorem mem_waysFrom_iff {i : Nat} {cs : List Cluster} {w : Way} :
    w ∈ ways.waysFrom i cs ↔
      ∃ (k : Nat) (d : Cluster) (v : Way), cs[k]? = some d ∧ v ∈ d.ways ∧ w = (i + k) :: v := by
  induction cs generalizing i with
  | nil => simp [ways.waysFrom]
  | cons c cs ih =>
    rw [ways.waysFrom, List.mem_append, List.mem_map, ih]
    constructor
    · rintro (⟨v, hv, rfl⟩ | ⟨k, d, v, hd, hv, rfl⟩)
      · exact ⟨0, c, v, rfl, hv, rfl⟩
      · exact ⟨k + 1, d, v, hd, hv, by rw [Nat.add_right_comm, Nat.add_assoc]⟩
    · rintro ⟨_ | k, d, v, hd, hv, rfl⟩
      · cases hd
        exact .inl ⟨v, hv, rfl⟩
      · exact .inr ⟨k, d, v, hd, hv, by rw [Nat.add_right_comm, Nat.add_assoc]⟩

/-- The ways of a cluster are those that lead to a cluster. -/
theorem mem_ways_iff {c : Cluster} {w : Way} : w ∈ c.ways ↔ ∃ d, c.at? w = some d := by
  induction w generalizing c with
  | nil => simp [ways_eq c]
  | cons i w ih =>
    rw [ways_eq, List.mem_cons, mem_waysFrom_iff, at?_cons]
    simp only [Option.bind_eq_some_iff, Nat.zero_add, List.cons.injEq, reduceCtorEq, false_or]
    constructor
    · rintro ⟨_, d, _, hd, hw, rfl, rfl⟩
      obtain ⟨e, he⟩ := ih.mp hw
      exact ⟨e, d, hd, he⟩
    · rintro ⟨e, d, hd, he⟩
      exact ⟨i, d, w, hd, ih.mpr ⟨e, he⟩, rfl, rfl⟩

/-- The ways stand in lexicographic order: a cluster comes before the ones in it, and these come
before the next one beside it. -/
theorem pairwise_ways (c : Cluster) : c.ways.Pairwise (· < ·) := by
  induction c using Cluster.induction with
  | step c ih =>
    have hfrom : ∀ (cs : List Cluster) (i : Nat), (∀ d ∈ cs, d.ways.Pairwise (· < ·)) →
        (ways.waysFrom i cs).Pairwise (· < ·) := by
      intro cs
      induction cs with
      | nil => exact fun _ _ => List.Pairwise.nil
      | cons d cs ihcs =>
        intro i hall
        obtain ⟨hd, hcs⟩ := List.forall_mem_cons.mp hall
        refine List.pairwise_append.mpr ⟨?_, ihcs (i + 1) hcs, ?_⟩
        · refine List.pairwise_map.mpr (hd.imp fun hlt => ?_)
          exact List.cons_lt_cons_iff.mpr (.inr ⟨rfl, hlt⟩)
        · intro first hfirst later hlater
          obtain ⟨v, -, rfl⟩ := List.mem_map.mp hfirst
          obtain ⟨k, e, w, -, -, rfl⟩ := mem_waysFrom_iff.mp hlater
          exact List.cons_lt_cons_iff.mpr (.inl (by omega))
    rw [ways_eq]
    refine List.pairwise_cons.mpr ⟨fun w hw => ?_, hfrom c.clusters 0 ih⟩
    obtain ⟨k, d, v, -, -, rfl⟩ := mem_waysFrom_iff.mp hw
    exact List.nil_lt_cons _ _

theorem nodup_ways (c : Cluster) : c.ways.Nodup := (pairwise_ways c).nodup

/-- The ways to the clusters that the cluster at a way holds itself, in their order. -/
def waysOn (c : Cluster) (w : Way) : List Way :=
  match c.at? w with
  | none => []
  | some d => (List.range d.clusters.length).map fun i => w ++ [i]

theorem mem_waysOn_iff {c : Cluster} {v w : Way} :
    v ∈ c.waysOn w ↔ ∃ i d, v = w ++ [i] ∧ c.at? v = some d := by
  rw [waysOn]
  cases hw : c.at? w with
  | none =>
    refine iff_of_false List.not_mem_nil ?_
    rintro ⟨i, d, rfl, hd⟩
    rw [at?_concat, hw] at hd
    cases hd
  | some d =>
    simp only [List.mem_map, List.mem_range]
    constructor
    · rintro ⟨i, hi, rfl⟩
      refine ⟨i, d.clusters[i], rfl, ?_⟩
      rw [at?_concat, hw]
      exact List.getElem?_eq_getElem hi
    · rintro ⟨i, e, rfl, he⟩
      rw [at?_concat, hw] at he
      exact ⟨i, (List.getElem?_eq_some_iff.mp he).1, rfl⟩

theorem nodup_waysOn (c : Cluster) (w : Way) : (c.waysOn w).Nodup := by
  rw [waysOn]
  cases c.at? w with
  | none => exact List.nodup_nil
  | some d => exact List.nodup_range.map fun i k h => by simpa using h

/-- Each way but the empty one leads on from another. -/
theorem ways_perm (c : Cluster) : c.ways.Perm ([] :: c.ways.flatMap c.waysOn) := by
  have hdisjoint : (c.ways.flatMap c.waysOn).Nodup := by
    refine List.nodup_flatMap.mpr ⟨fun w _ => nodup_waysOn c w, (nodup_ways c).imp ?_⟩
    intro v w hne u hv hw
    obtain ⟨i, d, rfl, -⟩ := mem_waysOn_iff.mp hv
    obtain ⟨k, e, heq, -⟩ := mem_waysOn_iff.mp hw
    exact hne (List.append_inj_left' heq rfl)
  have hnil : [] ∉ c.ways.flatMap c.waysOn := fun h => by
    obtain ⟨w, -, hw⟩ := List.mem_flatMap.mp h
    obtain ⟨i, d, heq, -⟩ := mem_waysOn_iff.mp hw
    simp at heq
  refine (List.perm_ext_iff_of_nodup (nodup_ways c) (List.nodup_cons.mpr ⟨hnil, hdisjoint⟩)).mpr ?_
  intro v
  rw [List.mem_cons, List.mem_flatMap, mem_ways_iff]
  constructor
  · rintro ⟨d, hd⟩
    rcases List.eq_nil_or_concat' v with rfl | ⟨w, i, rfl⟩
    · exact .inl rfl
    · rw [at?_concat] at hd
      obtain ⟨e, he, hd⟩ := Option.bind_eq_some_iff.mp hd
      refine .inr ⟨w, mem_ways_iff.mpr ⟨e, he⟩, mem_waysOn_iff.mpr ⟨i, d, rfl, ?_⟩⟩
      rw [at?_concat, he]
      exact hd
  · rintro (rfl | ⟨w, -, hv⟩)
    · exact ⟨c, rfl⟩
    · obtain ⟨i, d, -, hd⟩ := mem_waysOn_iff.mp hv
      exact ⟨d, hd⟩

/-! ## Traversals -/

/-- The traversal of the clusters follows the ways. -/
theorem map_at?_ways (c : Cluster) : c.ways.map (c.at? ·) = (c :: c.allClusters).map some := by
  induction c using Cluster.induction with
  | step c ih =>
    -- the ways from a place on, looked up by anything that knows the clusters from there on
    have hfrom : ∀ (cs : List Cluster) (i : Nat) (look : Way → Option Cluster),
        (∀ (k : Nat) (d : Cluster) (w : Way), cs[k]? = some d → look ((i + k) :: w) = d.at? w) →
        (∀ d ∈ cs, d.ways.map (d.at? ·) = (d :: d.allClusters).map some) →
        (ways.waysFrom i cs).map look = (cs.flatMap fun d => d :: d.allClusters).map some := by
      intro cs
      induction cs with
      | nil => exact fun _ _ _ _ => rfl
      | cons d cs ihcs =>
        intro i look hlook hall
        obtain ⟨hd, hcs⟩ := List.forall_mem_cons.mp hall
        have hrest := ihcs (i + 1) look (fun k e w he => by
          rw [← hlook (k + 1) e w he, Nat.add_right_comm, Nat.add_assoc]) hcs
        have hfirst : (d.ways.map (i :: ·)).map look = d.ways.map (d.at? ·) := by
          rw [List.map_map]
          exact List.map_congr_left fun w _ => hlook 0 d w rfl
        rw [ways.waysFrom, List.map_append, hfirst, hd, hrest, List.flatMap_cons, List.map_append]
    rw [ways_eq, List.map_cons, hfrom c.clusters 0 _ ?_ ih, allClusters_eq]
    · rfl
    · intro k d w hd
      rw [Nat.zero_add, at?_cons, hd]
      rfl

/-- A traversal that lists a part of a cluster, and then what it lists for the clusters in it, lists
this part of the cluster and of all clusters in it, in their order. -/
theorem traversal_eq_flatMap {α : Type} {part traversal : Cluster → List α}
    (h : ∀ c, traversal c = part c ++ c.clusters.flatMap traversal) (c : Cluster) :
    traversal c = (c :: c.allClusters).flatMap part := by
  induction c using Cluster.induction with
  | step c ih =>
    rw [h, List.flatMap_cons, allClusters_eq, List.flatMap_assoc]
    congr 1
    exact List.flatMap_congr ih

/-- What stands at the ways, way by way, is what the clusters have, in their order. -/
theorem flatMap_ways {α : Type} {part : Cluster → List α} {found : Way → List α} {c : Cluster}
    (h : ∀ w d, c.at? w = some d → found w = part d) :
    c.ways.flatMap found = (c :: c.allClusters).flatMap part := by
  have hways : c.ways.flatMap found =
      (c.ways.map (c.at? ·)).flatMap fun d => (d.map part).getD [] := by
    rw [List.flatMap_map]
    refine List.flatMap_congr fun w hw => ?_
    obtain ⟨d, hd⟩ := mem_ways_iff.mp hw
    rw [h w d hd, hd]
    rfl
  rw [hways, map_at?_ways, List.flatMap_map]
  rfl

theorem allNodes_eq_flatMap (c : Cluster) :
    c.allNodes = c.nodes ++ c.allClusters.flatMap Cluster.nodes :=
  traversal_eq_flatMap allNodes_eq c

theorem allEdges_eq_flatMap (c : Cluster) :
    c.allEdges = c.edges ++ c.allClusters.flatMap Cluster.edges :=
  traversal_eq_flatMap allEdges_eq c

/-! ## Changes -/

/-- At a way and below it, a change at the way is seen. -/
theorem at?_modifyAt_append (f : Cluster → Cluster) (v w : Way) (c : Cluster) :
    (c.modifyAt f v).at? (v ++ w) = (c.at? v).bind fun d => (f d).at? w := by
  induction v generalizing c with
  | nil => rfl
  | cons i v ih =>
    rw [List.cons_append, at?_cons, at?_cons, modifyAt, List.getElem?_modify_eq]
    cases c.clusters[i]? with
    | none => rfl
    | some d => exact ih d

theorem at?_modifyAt (f : Cluster → Cluster) (v : Way) (c : Cluster) :
    (c.modifyAt f v).at? v = (c.at? v).map f := by
  have h := at?_modifyAt_append f v [] c
  rw [List.append_nil] at h
  rw [h]
  cases c.at? v <;> rfl

/-- What a cluster holds itself; of the clusters in it, their names. -/
structure Holding where
  nodes : List Node
  edges : List Edge
  names : List String

def holding (c : Cluster) : Holding where
  nodes := c.nodes
  edges := c.edges
  names := c.clusters.map Cluster.name

/-- What the cluster holds that a way leads to. -/
def holding? (c : Cluster) (w : Way) : Option Holding := (c.at? w).map holding

theorem isSome_holding?_iff {c : Cluster} {w : Way} :
    (c.holding? w).isSome ↔ ∃ d, c.at? w = some d := by
  rw [holding?, Option.isSome_map, Option.isSome_iff_exists]

section Change

variable {f : Cluster → Cluster} (hname : ∀ d, (f d).name = d.name)
include hname

theorem name_modifyAt (v : Way) (c : Cluster) : (c.modifyAt f v).name = c.name := by
  cases v with
  | nil => exact hname c
  | cons i v => rfl

theorem holding_modifyAt_cons (i : Nat) (v : Way) (c : Cluster) :
    (c.modifyAt f (i :: v)).holding = c.holding := by
  have hnames : (c.clusters.modify i (modifyAt f v)).map Cluster.name =
      c.clusters.map Cluster.name := by
    apply List.ext_getElem?
    intro k
    rw [List.getElem?_map, List.getElem?_map, List.getElem?_modify]
    cases c.clusters[k]? with
    | none => rfl
    | some d => by_cases hk : i = k <;> simp [hk, name_modifyAt hname]
  exact congrArg (Holding.mk c.nodes c.edges) hnames

/-- Elsewhere the clusters hold what they held. -/
theorem holding?_modifyAt_of_not_prefix {v w : Way} (h : ¬ v <+: w) (c : Cluster) :
    (c.modifyAt f v).holding? w = c.holding? w := by
  induction v generalizing c w with
  | nil => exact absurd List.nil_prefix h
  | cons i v ih =>
    cases w with
    | nil => exact congrArg some (holding_modifyAt_cons hname i v c)
    | cons k w =>
      rw [holding?, holding?, at?_cons, at?_cons, modifyAt, List.getElem?_modify]
      cases c.clusters[k]? with
      | none => rfl
      | some d =>
        by_cases hk : i = k
        · have hv : ¬ v <+: w := fun hv => h (List.cons_prefix_cons.mpr ⟨hk, hv⟩)
          have hd := ih hv d
          rw [holding?, holding?] at hd
          simpa [hk] using hd
        · simp [hk]

/-- A change that keeps the clusters in a cluster is seen in this cluster alone. -/
theorem holding?_modifyAt (hclusters : ∀ d, (f d).clusters = d.clusters) (v w : Way)
    (c : Cluster) : (c.modifyAt f v).holding? w =
      if w = v then (c.at? v).map fun d => (f d).holding else c.holding? w := by
  split
  · rename_i hw
    rw [hw, holding?, at?_modifyAt, Option.map_map]
    rfl
  · rename_i hw
    by_cases hprefix : v <+: w
    · obtain ⟨u, rfl⟩ := hprefix
      rw [holding?, holding?, at?_modifyAt_append, at?_append]
      cases u with
      | nil => exact absurd (List.append_nil v) hw
      | cons i u =>
        congr 2
        funext d
        rw [at?_cons, at?_cons, hclusters]
    · exact holding?_modifyAt_of_not_prefix hname hprefix c

end Change

/-- Attributes are not among what is held. -/
theorem holding?_set (key value : String) (v w : Way) (c : Cluster) :
    (c.modifyAt (·.set key value) v).holding? w = c.holding? w := by
  rw [holding?_modifyAt (f := (·.set key value)) (fun _ => rfl) (fun _ => rfl)]
  split
  · rename_i hw
    rw [hw]
    rfl
  · rfl

theorem holding?_addCluster_cons (d : Cluster) (name : String) (i : Nat) (w : Way) :
    (d.addCluster { name }).holding? (i :: w) =
      if i :: w = [d.clusters.length] then some ⟨[], [], []⟩ else d.holding? (i :: w) := by
  have hother (hi : i ≠ d.clusters.length) : i :: w ≠ [d.clusters.length] :=
    fun h => hi (List.cons.inj h).1
  rw [holding?, holding?, at?_cons, at?_cons, addCluster]
  rcases Nat.lt_trichotomy i d.clusters.length with hi | rfl | hi
  · rw [if_neg (hother (Nat.ne_of_lt hi)), List.getElem?_append_left hi]
  · rw [List.getElem?_concat_length, List.getElem?_eq_none (Nat.le_refl _)]
    cases w with
    | nil => simp [holding]
    | cons k w => simp [at?_cons]
  · have hlength : (d.clusters ++ [Cluster.mk name [] [] [] []]).length ≤ i := by
      rw [List.length_append]
      exact hi
    rw [if_neg (hother (Nat.ne_of_gt hi)), List.getElem?_eq_none hlength,
      List.getElem?_eq_none (Nat.le_of_lt hi)]

/-- An empty cluster behind the others of a cluster is seen there, and at its own place. -/
theorem holding?_addCluster {c d : Cluster} {v : Way} (hd : c.at? v = some d) (name : String)
    (w : Way) : (c.modifyAt (·.addCluster { name }) v).holding? w =
      if w = v then some { d.holding with names := d.holding.names ++ [name] }
      else if w = v ++ [d.clusters.length] then some ⟨[], [], []⟩ else c.holding? w := by
  by_cases hprefix : v <+: w
  · obtain ⟨u, rfl⟩ := hprefix
    rw [holding?, holding?, at?_modifyAt_append, at?_append, hd]
    simp only [List.append_right_eq_self, List.append_cancel_left_eq, Option.bind_some]
    cases u with
    | nil => simp [addCluster, holding]
    | cons i u => exact holding?_addCluster_cons d name i u
  · have hw : w ≠ v := fun hw => hprefix (hw ▸ List.prefix_rfl)
    have hnew : w ≠ v ++ [d.clusters.length] := fun hw => hprefix (hw ▸ List.prefix_append v _)
    rw [if_neg hw, if_neg hnew]
    exact holding?_modifyAt_of_not_prefix (f := (·.addCluster { name })) (fun _ => rfl) hprefix c

end ClassDiagram.Diagram.Cluster
