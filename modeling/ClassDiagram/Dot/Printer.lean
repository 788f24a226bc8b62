import ClassDiagram.Diagram.Graph
import ClassDiagram.Dot.Identifier

/-!
Diagrams in the DOT language. A scope is written as statements: its default attributes, its nodes,
its clusters and its edges. Each statement of a cluster stands one tab deeper than the cluster.
-/

namespace ClassDiagram.Dot

open Diagram (Cluster Edge Node)

/-- One attribute, with both sides in their written form. -/
def assignment (key value : String) : List Char :=
  quote key.toList ++ '=' :: quote value.toList

/-- Attributes in the order of their keys. -/
def sorted (attributes : Attributes) : Attributes :=
  attributes.mergeSort fun a b => decide (a.1 ≤ b.1)

/-- An attribute list, or nothing for no attributes. -/
def brackets (attributes : Attributes) : List Char :=
  if attributes = [] then []
  else
    let items := attributes.map fun (key, value) => assignment key value
    " [".toList ++ [' '].intercalate items ++ [']']

/-- The attributes of a node or an edge: the label, then the others in the order of their keys. -/
def labelFirst (attributes : Attributes) : Attributes :=
  attributes.filter (·.1 = "label") ++ sorted (attributes.filter (·.1 ≠ "label"))

/-- A statement on a line of its own. -/
def line (cs : List Char) : List Char := '\t' :: (cs ++ ['\n'])

def indent (statement : List Char) : List Char := '\t' :: statement

def nodeStatement (n : Node) : List Char :=
  line (quote n.id.toList ++ brackets (labelFirst n.attributes))

def edgeStatement (e : Edge) : List Char :=
  line (quoteEnd e.tail.toList ++ " -> ".toList ++ quoteEnd e.head.toList
    ++ brackets (labelFirst e.attributes))

/-- The statement that sets defaults for what a keyword names, if there are any. -/
def defaults (keyword : String) (attributes : Attributes) : List (List Char) :=
  if attributes = [] then [] else [line (keyword.toList ++ brackets (sorted attributes))]

/-- The line that opens a scope; a scope without a name has none in it. -/
def opening (keyword : String) (name : String) : List Char :=
  keyword.toList ++ (if name = "" then [] else quote name.toList ++ [' ']) ++ "\x7b\n".toList

def closing : List Char := "\x7d\n".toList

/-- The statements in a cluster, behind its defaults. -/
def body : Cluster → List (List Char)
  | ⟨_, _, nodes, edges, clusters⟩ =>
    nodes.map nodeStatement ++ clusterStatements clusters ++ edges.map edgeStatement
where
  clusterStatements : List Cluster → List (List Char)
    | [] => []
    | c :: cs =>
      (opening (if c.name = "" then "" else "subgraph ") c.name
        :: (defaults "graph" c.attributes ++ body c) ++ [closing]).map indent
      ++ clusterStatements cs

def statements (d : Diagram) : List (List Char) :=
  defaults "graph" d.root.attributes ++ defaults "node" d.nodeDefaults
    ++ defaults "edge" d.edgeDefaults ++ body d.root

/-- The text of a diagram. -/
def text (d : Diagram) : String :=
  String.ofList (opening "digraph " d.root.name ++ (statements d).flatten ++ closing)

/-! ## Keys that cannot be written -/

/-- A statement whose attributes have a key that names a part of the statement itself. -/
structure Clash where
  statement : String
  key : String
  deriving DecidableEq, Repr

def clashAmong (statement : String) (reserved : List String) (attributes : Attributes) :
    Option Clash :=
  (reserved.find? attributes.keys.contains).map fun key => ⟨statement, key⟩

/-- The first clash in a cluster, in the order in which its statements are written. -/
def clash? : Cluster → Option Clash
  | ⟨_, _, nodes, edges, clusters⟩ =>
    nodes.findSome? (fun n => clashAmong "node" ["self", "name"] n.attributes)
    <|> clashIn clusters
    <|> edges.findSome? (fun e =>
      clashAmong "edge" ["self", "tail_name", "head_name"] e.attributes)
where
  clashIn : List Cluster → Option Clash
    | [] => none
    | c :: cs => clash? c <|> clashIn cs

end ClassDiagram.Dot
