import GridPuzzle.Yaml.Basic
import GridPuzzle.Yaml.Implicit

/-!
# Documents as graphs

A document's nodes are numbered in the order in which they start, and an alias becomes the number of
the node that it stands for. An anchor is known from the start of its node on, so that a node may be
part of itself. Every vertex has a tag, which plain scalars owe to their spelling.
-/

namespace GridPuzzle.Yaml

/-- The content of a vertex, whose parts are given by their numbers. -/
inductive Content where
  | scalar (text : String)
  | sequence (items : List Nat)
  | mapping (entries : List (Nat × Nat))
deriving DecidableEq, Inhabited

structure Vertex where
  tag : String
  content : Content
deriving DecidableEq, Inhabited

/-- The vertices of a document by their numbers, the first of which is the whole document. -/
abbrev Graph := Array Vertex

def sequenceTag : String := standardTag "seq"

def mappingTag : String := standardTag "map"

/-- The tag that a node without one and a node under the bare tag have. -/
def tagOr (implied : String) : Option String → String
  | none | some "!" => implied
  | some tag => tag

/-- The tag of a scalar. A quoted scalar without a tag is a text. -/
def scalarTag (tag : Option String) (text : String) (isPlain : Bool) : String :=
  if tag.isNone && !isPlain then textTag else tagOr (implicitTag text) tag

namespace Graph

def tagAt (graph : Graph) (n : Nat) : String := (graph[n]?.map Vertex.tag).getD ""

def contentAt (graph : Graph) (n : Nat) : Content := (graph[n]?.map Vertex.content).getD default

def entriesAt (graph : Graph) (n : Nat) : List (Nat × Nat) :=
  match contentAt graph n with
  | .mapping entries => entries
  | _ => []

def retag (graph : Graph) (n : Nat) (tag : String) : Graph :=
  graph.modify n fun vertex ↦ { vertex with tag }

def setEntries (graph : Graph) (n : Nat) (entries : List (Nat × Nat)) : Graph :=
  graph.modify n fun vertex ↦ { vertex with content := .mapping entries }

end Graph

/-! ## Numbering -/

/-- The vertices numbered so far, and the numbers of the anchored ones. -/
structure Numbering where
  graph : Graph := #[]
  anchors : List (String × Nat) := []

namespace Numbering

/-- Gives the next number to a node, whose anchor must be a new one. -/
def start? (anchor : Option String) (numbering : Numbering) : Option (Nat × Numbering) :=
  let n := numbering.graph.size
  let graph := numbering.graph.push default
  match anchor with
  | none => some (n, { numbering with graph })
  | some name =>
    if (numbering.anchors.lookup name).isSome then none
    else some (n, { graph, anchors := (name, n) :: numbering.anchors })

def complete (n : Nat) (tag : String) (content : Content) (numbering : Numbering) :
    Nat × Numbering :=
  (n, { numbering with graph := numbering.graph.setIfInBounds n { tag, content } })

mutual

/-- Numbers a node and the nodes in it. -/
def add? (anchor : Option String) (numbering : Numbering) : Node → Option (Nat × Numbering)
  | .aliasTo name => (numbering.anchors.lookup name).map (·, numbering)
  | .anchored name node => add? (some name) numbering node
  | .scalar tag text isPlain => do
    let (n, numbering) ← numbering.start? anchor
    return numbering.complete n (scalarTag tag text isPlain) (.scalar text)
  | .sequence tag items => do
    let (n, numbering) ← numbering.start? anchor
    let (items, numbering) ← addItems? numbering items
    return numbering.complete n (tagOr sequenceTag tag) (.sequence items)
  | .mapping tag entries => do
    let (n, numbering) ← numbering.start? anchor
    let (entries, numbering) ← addEntries? numbering entries
    return numbering.complete n (tagOr mappingTag tag) (.mapping entries)

def addItems? (numbering : Numbering) : List Node → Option (List Nat × Numbering)
  | [] => some ([], numbering)
  | node :: rest => do
    let (item, numbering) ← add? none numbering node
    let (items, numbering) ← addItems? numbering rest
    return (item :: items, numbering)

def addEntries? (numbering : Numbering) :
    List (Node × Node) → Option (List (Nat × Nat) × Numbering)
  | [] => some ([], numbering)
  | (keyNode, valueNode) :: rest => do
    let (key, numbering) ← add? none numbering keyNode
    let (value, numbering) ← add? none numbering valueNode
    let (entries, numbering) ← addEntries? numbering rest
    return ((key, value) :: entries, numbering)

end

end Numbering

/-- The graph of a document, in which no anchor is given twice and every alias has one before it. -/
def Graph.ofNode? (node : Node) : Option Graph :=
  (Numbering.add? none {} node).map fun (_, numbering) ↦ numbering.graph

end GridPuzzle.Yaml
