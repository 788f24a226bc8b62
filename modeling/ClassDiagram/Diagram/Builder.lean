import ClassDiagram.Diagram.Graph
import ClassDiagram.Diagram.Signature
import ClassDiagram.Log
import ClassDiagram.Model.QualifiedName

/-!
The diagram of a forest of modules: a cluster for each module, a node for each class, and edges to
superclasses and to the types of properties (`ofModules`). The diagram of dependencies shows the
modules alone, and edges to the modules that they import (`ofDependencies`).
-/

namespace ClassDiagram.Diagram

/-- The shade of a cluster, darker with each level down to a floor. -/
def shade (level : Int) : String := "gray" ++ toString (max 40 (95 - level * 6))

/-- A cluster for a module, with nothing in it. -/
def frame (h : Header String) (id : String) (level : Nat) : Cluster where
  name := "cluster_" ++ id
  attributes := [
    ("label", (if h.visibility = .pub then "" else h.visibility.glyph ++ " ") ++ h.name),
    ("style", "filled"),
    ("color", shade level)]

/-- The node that shows the functions of a module, if it has any. -/
def functionNodes (id : String) (methods : List (Method String)) : List Node :=
  let label := Signature.methods methods
  if label = "" then [] else [⟨id, [("label", label), ("shape", "none")]⟩]

/-- The label of a class: its name, its properties and its methods, in one box each. -/
def classLabel (c : Class) : String :=
  let segments := [c.name, Signature.properties c.properties, Signature.methods c.methods]
  "\x7b" ++ "|".intercalate (segments.filter (· ≠ "")) ++ "\x7d"

def classNode (path : String) (c : Class) : Node :=
  ⟨NodeId.within path c.name, [("label", classLabel c)]⟩

def inheritance (tail : String) (base : QualifiedName) : Edge :=
  ⟨tail, NodeId.ofName base, [("arrowhead", "onormal")]⟩

def association (tail : String) (type : QualifiedName) : Edge :=
  ⟨tail, NodeId.ofName type, [("arrowhead", "vee")]⟩

def classEdges (path : String) (c : Class) : List Edge :=
  let tail := NodeId.within path c.name
  c.base.toList.map (inheritance tail) ++ c.dependencies.map (association tail)

/-- The cluster of a module at a path and a level, with the clusters of the modules in it. -/
def moduleCluster (path : String) (level : Nat) : Module → Cluster
  | ⟨header, _, modules, classes, methods, _⟩ =>
    let id := NodeId.within path header.name
    { frame header id level with
      nodes := functionNodes id methods ++ classes.map (classNode id)
      edges := classes.flatMap (classEdges id)
      clusters := moduleClusters id (level + 1) modules }
where
  moduleClusters (path : String) (level : Nat) : List Module → List Cluster
    | [] => []
    | m :: ms => moduleCluster path level m :: moduleClusters path level ms

def font : Attributes := [("fontsize", "12"), ("fontname", "Verdana")]

/-- A diagram with these clusters and edges in its root. -/
def drawing (clusters : List Cluster) (edges : List Edge) : Diagram where
  root := { name := "G", attributes := font, clusters, edges }
  nodeDefaults := font ++ [("shape", "record")]
  edgeDefaults := font

/-- The class diagram of modules. -/
def ofModules (modules : List Module) : Diagram :=
  drawing (modules.map fun m => moduleCluster m.path 0 m) []

/-- An edge to each module that a module imports. -/
def dependencyEdges (m : Module) : List Edge :=
  m.dependencyNames.eraseDups.map fun name => ⟨m.name, NodeId.within "" name, []⟩

/-- The diagram of the modules' dependencies. -/
def ofDependencies (modules : List Module) : Diagram :=
  drawing (modules.map fun m => frame m.header (NodeId.within m.path m.name) 0)
    (modules.flatMap dependencyEdges)

/-! ## Log -/

def nodeEntry (n : Node) : LogEntry := ⟨.debug, "Added node " ++ n.id⟩

def edgeEntry (e : Edge) : LogEntry := ⟨.debug, "Added edge from " ++ e.tail ++ " to " ++ e.head⟩

def clusterEntry (id : String) : LogEntry := ⟨.debug, "Added cluster cluster_" ++ id⟩

def classLog (path : String) (c : Class) : Log :=
  nodeEntry (classNode path c) :: (classEdges path c).map edgeEntry

/-- The entries for the cluster of a module, in the order its parts are added. -/
def moduleLog (path : String) : Module → Log
  | ⟨header, _, modules, classes, methods, _⟩ =>
    let id := NodeId.within path header.name
    clusterEntry id :: ((functionNodes id methods).map nodeEntry ++ moduleLogs id modules
      ++ classes.flatMap (classLog id))
where
  moduleLogs (path : String) : List Module → Log
    | [] => []
    | m :: ms => moduleLog path m ++ moduleLogs path ms

def dependencyLog (m : Module) : Log :=
  clusterEntry (NodeId.within m.path m.name) :: (dependencyEdges m).map edgeEntry

def summaryEntry (d : Diagram) : LogEntry :=
  ⟨.info, "Built graph with " ++ toString d.root.allNodes.length ++ " nodes and "
    ++ toString d.root.allEdges.length ++ " edges"⟩

/-- The diagram of modules, of their dependencies only or in full, and the entries on the way. -/
def build {ε : Type} (modules : List Module) (dependenciesOnly : Bool) : Logged ε Diagram :=
  let d := if dependenciesOnly then ofDependencies modules else ofModules modules
  let parts := if dependenciesOnly then modules.flatMap dependencyLog
    else modules.flatMap fun m => moduleLog m.path m
  ⟨⟨.info, "Building diagram graph"⟩ :: parts ++ [summaryEntry d], .ok d⟩

end ClassDiagram.Diagram
