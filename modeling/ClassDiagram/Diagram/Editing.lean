import ClassDiagram.Diagram.Graph
import ClassDiagram.Dot.Printer
import ClassDiagram.Text.Quoted

/-!
Steps that draw graphs by hand. Handles name graphs and the clusters in them; a handle keeps the
way to its cluster, so that all handles into a graph see its changes (`Canvas.modifyAt`).
-/

namespace ClassDiagram.Diagram

/-- A value as it is given to an attribute. -/
inductive AttributeValue
  | text (s : String)
  | integer (n : Int)
  /-- An integer with this many digits behind the point. -/
  | decimal (n : Int) (places : Nat)
  | truth (b : Bool)
  | nothing
  deriving DecidableEq, Repr

namespace AttributeValue

def dropZeros (digits : List Char) : List Char :=
  (digits.reverse.dropWhile (· = '0')).reverse

/-- A number with a point; at least one digit stands behind the point. -/
def decimalText (n : Int) (places : Nat) : String :=
  let digits := (toString n.natAbs).toList
  let digits := List.replicate (places + 1 - digits.length) '0' ++ digits
  let whole := digits.take (digits.length - places)
  let fraction := dropZeros (digits.drop (digits.length - places))
  (if n < 0 then "-" else "") ++ String.ofList whole ++ "."
    ++ (if fraction = [] then "0" else String.ofList fraction)

def toText : AttributeValue → String
  | text s => s
  | integer n => toString n
  | decimal n places => decimalText n places
  | truth true => "True"
  | truth false => "False"
  | nothing => "None"

end AttributeValue

/-- A graph that is drawn by hand: a diagram, or a cluster on its own. -/
inductive Canvas
  | diagram (d : Diagram)
  | cluster (c : Cluster)

/-- The way from a cluster to one in it: at each level, the place of a cluster. -/
abbrev Way := List Nat

namespace Cluster

def modifyAt (f : Cluster → Cluster) : Way → Cluster → Cluster
  | [], c => f c
  | i :: way, c => { c with clusters := c.clusters.modify i (modifyAt f way) }

def at? : Way → Cluster → Option Cluster
  | [], c => some c
  | i :: way, c => c.clusters[i]? >>= at? way

end Cluster

namespace Canvas

def root : Canvas → Cluster
  | diagram d => d.root
  | cluster c => c

def modifyAt (f : Cluster → Cluster) (way : Way) : Canvas → Canvas
  | diagram d => diagram { d with root := d.root.modifyAt f way }
  | cluster c => cluster (c.modifyAt f way)

/-- What a way leads to: the whole canvas, or a cluster. -/
def at? (way : Way) (canvas : Canvas) : Option Canvas :=
  if way = [] then some canvas else (canvas.root.at? way).map cluster

end Canvas

inductive EditError
  /-- Only a diagram has this part. -/
  | noDefaults (part : String)
  | clash (c : Dot.Clash)
  | unknownHandle (id : String)
  deriving DecidableEq, Repr

namespace EditError

def message : EditError → String
  | noDefaults part => "'Subgraph' object has no attribute '" ++ part ++ "'"
  | clash c => "Dot." ++ c.statement ++ "() got multiple values for argument '" ++ c.key ++ "'"
  | unknownHandle id => Text.Quoted.quoted id

end EditError

inductive Edit
  | newDiagram (id name : String)
  | newCluster (id name : String) (attributes : Attributes)
  | set (on key : String) (value : AttributeValue)
  | setNodeDefault (on key : String) (value : AttributeValue)
  | setEdgeDefault (on key : String) (value : AttributeValue)
  | addCluster (on id name : String)
  | addNode (on : String) (node : Node)
  | addEdge (on : String) (edge : Edge)
  | traverse (on : String)
  | display (on : String)
  | dot (on : String)

inductive EditReply
  | canvas (c : Canvas)
  | attributes (a : Attributes)
  | node (n : Node)
  | edge (e : Edge)
  | traversal (nodes : List Node) (edges : List Edge) (clusters : List Cluster)
  | text (s : String)

/-- The canvases drawn so far, and what handles name: a canvas by its place, and a way in it. -/
structure Desk where
  canvases : List Canvas := []
  handles : Dictionary (Nat × Way) := []

namespace Desk

/-- A handle's canvas with its place, and the way of the handle. -/
def lookUp (d : Desk) (id : String) : Except EditError (Nat × Canvas × Way) :=
  match d.handles.get? id with
  | none => .error (.unknownHandle id)
  | some (place, way) =>
    match d.canvases[place]? with
    | none => .error (.unknownHandle id)
    | some canvas => .ok (place, canvas, way)

/-- What a handle names. -/
def target (d : Desk) (id : String) : Except EditError Canvas := do
  let (_, canvas, way) ← d.lookUp id
  match canvas.at? way with
  | some c => return c
  | none => .error (.unknownHandle id)

def replace (d : Desk) (place : Nat) (canvas : Canvas) : Desk :=
  { d with canvases := d.canvases.set place canvas }

def addCanvas (d : Desk) (id : String) (canvas : Canvas) : Desk where
  canvases := d.canvases ++ [canvas]
  handles := d.handles.put id (d.canvases.length, [])

def modify (d : Desk) (id : String) (f : Cluster → Cluster) : Except EditError Desk := do
  let (place, canvas, way) ← d.lookUp id
  return d.replace place (canvas.modifyAt f way)

/-- Changes the diagram that a handle names; a cluster lacks the part to change. -/
def modifyDiagram (d : Desk) (id part : String) (f : Diagram → Diagram) :
    Except EditError (Desk × Diagram) := do
  match ← d.lookUp id with
  | (place, .diagram diagram, []) => return (d.replace place (.diagram (f diagram)), f diagram)
  | _ => .error (.noDefaults part)

/-- The text of the diagram that a handle names. -/
def dotText (d : Desk) (id : String) : Except EditError String := do
  match ← d.lookUp id with
  | (_, .diagram diagram, []) =>
    match Dot.clash? diagram.root with
    | some c => .error (.clash c)
    | none => return Dot.text diagram
  | _ => .error (.noDefaults "node_attributes")

def perform (d : Desk) : Edit → Except EditError (Desk × EditReply)
  | .newDiagram id name =>
    let canvas := Canvas.diagram { root := { name } }
    return (d.addCanvas id canvas, .canvas canvas)
  | .newCluster id name attributes =>
    let canvas := Canvas.cluster { name, attributes }
    return (d.addCanvas id canvas, .canvas canvas)
  | .set on key value => do
    let d ← d.modify on (·.set key value.toText)
    return (d, .attributes (← d.target on).root.attributes)
  | .setNodeDefault on key value => do
    let (d, diagram) ← d.modifyDiagram on "set_node_attribute" fun diagram =>
      { diagram with nodeDefaults := diagram.nodeDefaults.put key value.toText }
    return (d, .attributes diagram.nodeDefaults)
  | .setEdgeDefault on key value => do
    let (d, diagram) ← d.modifyDiagram on "set_edge_attribute" fun diagram =>
      { diagram with edgeDefaults := diagram.edgeDefaults.put key value.toText }
    return (d, .attributes diagram.edgeDefaults)
  | .addCluster on id name => do
    let (place, canvas, way) ← d.lookUp on
    let index := match canvas.at? way with
      | some c => c.root.clusters.length
      | none => 0
    let d := d.replace place (canvas.modifyAt (·.addCluster { name }) way)
    return ({ d with handles := d.handles.put id (place, way ++ [index]) },
      .canvas (.cluster { name }))
  | .addNode on node => return (← d.modify on (·.addNode node), .node node)
  | .addEdge on edge => return (← d.modify on (·.addEdge edge), .edge edge)
  | .traverse on => do
    let c := (← d.target on).root
    return (d, .traversal c.allNodes c.allEdges c.allClusters)
  | .display on => return (d, .canvas (← d.target on))
  | .dot on => return (d, .text (← d.dotText on))

def step (d : Desk) (e : Edit) : Desk × Except EditError EditReply :=
  match d.perform e with
  | .ok (d, r) => (d, .ok r)
  | .error e => (d, .error e)

def run (d : Desk) : List Edit → List (Except EditError EditReply)
  | [] => []
  | e :: es => let (d, r) := d.step e; r :: d.run es

end Desk

/-! ## Texts that show parts of a graph -/

def Node.shown (n : Node) : String := "GraphNode(id=" ++ Text.Quoted.quoted n.id ++ ")"

def Edge.shown (e : Edge) : String :=
  "GraphEdge(" ++ Text.Quoted.quoted e.tail ++ " -> " ++ Text.Quoted.quoted e.head ++ ")"

end ClassDiagram.Diagram
