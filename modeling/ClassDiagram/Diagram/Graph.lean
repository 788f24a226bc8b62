import ClassDiagram.Dictionary

/-!
Directed graphs in nested clusters, as a drawing program takes them. `allClusters`, `allNodes` and
`allEdges` list what a cluster holds at any depth, outer clusters before the ones in them.
-/

namespace ClassDiagram

abbrev Attributes := Dictionary String

namespace Diagram

structure Node where
  id : String
  attributes : Attributes := []
  deriving DecidableEq, Repr

namespace Node

def label? (n : Node) : Option String := n.attributes.get? "label"

end Node

/-- An edge between identifiers, which need not be those of nodes. -/
structure Edge where
  tail : String
  head : String
  attributes : Attributes := []
  deriving DecidableEq, Repr

structure Cluster where
  name : String
  attributes : Attributes := []
  nodes : List Node := []
  edges : List Edge := []
  clusters : List Cluster := []

namespace Cluster

def set (c : Cluster) (key value : String) : Cluster :=
  { c with attributes := c.attributes.put key value }

def addNode (c : Cluster) (n : Node) : Cluster := { c with nodes := c.nodes ++ [n] }

def addEdge (c : Cluster) (e : Edge) : Cluster := { c with edges := c.edges ++ [e] }

def addCluster (c : Cluster) (inner : Cluster) : Cluster :=
  { c with clusters := c.clusters ++ [inner] }

/-- The nodes in a cluster and in all clusters in it. -/
def allNodes : Cluster → List Node
  | ⟨_, _, nodes, _, clusters⟩ => nodes ++ listNodes clusters
where
  listNodes : List Cluster → List Node
    | [] => []
    | c :: cs => c.allNodes ++ listNodes cs

def allEdges : Cluster → List Edge
  | ⟨_, _, _, edges, clusters⟩ => edges ++ listEdges clusters
where
  listEdges : List Cluster → List Edge
    | [] => []
    | c :: cs => c.allEdges ++ listEdges cs

/-- The clusters in a cluster, at any depth. -/
def allClusters : Cluster → List Cluster
  | ⟨_, _, _, _, clusters⟩ => listClusters clusters
where
  listClusters : List Cluster → List Cluster
    | [] => []
    | c :: cs => c :: (c.allClusters ++ listClusters cs)

end Cluster

end Diagram

/-- A graph with attributes that all its nodes and edges have by default. -/
structure Diagram where
  root : Diagram.Cluster
  nodeDefaults : Attributes := []
  edgeDefaults : Attributes := []

end ClassDiagram
