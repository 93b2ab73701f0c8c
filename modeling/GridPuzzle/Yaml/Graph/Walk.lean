import GridPuzzle.Yaml.Basic
import GridPuzzle.Yaml.Graph.Basic
import GridPuzzle.Yaml.Scalar

/-!
# Walking through a document

A document is gone through from its first vertex, one collection after the other in the order in
which they are reached. A scalar is given its value as soon as it is reached; the parts of a
collection are reached when its turn comes, and a mapping is merged first. So the first fault on
this walk is the fault of the document. A key has to be a scalar.
-/

/-!
## Merged mappings

A mapping may name mappings whose entries it takes over. These entries stand before its own, so that
its own count more, and of several mappings under one key the first counts most. Merging is done in
place: a mapping that merges another one merges what the other one merges, and a mapping on the way
back to itself is taken as far as it has been merged.
-/

namespace GridPuzzle.Yaml.Graph

/-- Whether merging has anything to do with an entry, because of its key. -/
def isSpecial (graph : Graph) (entry : Nat × Nat) : Bool :=
  graph.tagAt entry.1 == mergeTag || graph.tagAt entry.1 == valueTag

mutual

/-- Merges what a mapping names, given the entries that are merged into it already. An equals sign
becomes a text where it is a key. -/
def mergeInto (n : Nat) (merged : List (Nat × Nat)) (graph : Graph) : (fuel : Nat) → Reading Graph
  | 0 => .error .tooDeep
  | fuel + 1 =>
    let entries := graph.entriesAt n
    let position := entries.findIdx graph.isSpecial
    match entries[position]? with
    | none => .ok (graph.setEntries n (merged ++ entries))
    | some (key, value) =>
      if graph.tagAt key == valueTag then mergeInto n merged (graph.retag key textTag) fuel
      else do
        let graph := graph.setEntries n (entries.eraseIdx position)
        let (found, graph) ← contributed value graph fuel
        mergeInto n (merged ++ found) graph fuel
termination_by structural fuel => fuel

/-- The entries that a mapping, or a sequence of mappings, contributes where it is merged. -/
def contributed (n : Nat) (graph : Graph) : (fuel : Nat) → Reading (List (Nat × Nat) × Graph)
  | 0 => .error .tooDeep
  | fuel + 1 =>
    match graph.contentAt n with
    | .scalar _ => .error .malformed
    | .mapping _ => do
      let graph ← mergeInto n [] graph fuel
      return (graph.entriesAt n, graph)
    | .sequence items =>
      items.foldlM (fun (found, graph) item ↦
        match graph.contentAt item with
        | .mapping _ => do
          let graph ← mergeInto item [] graph fuel
          return (graph.entriesAt item ++ found, graph)
        | _ => .error .malformed) ([], graph)
termination_by structural fuel => fuel

end

def entryCount (graph : Graph) : Nat :=
  graph.foldl (fun count vertex ↦
    match vertex.content with
    | .mapping entries => count + entries.length
    | _ => count) 0

/-- Merges what a mapping names into it. Every step but the last one of a mapping disposes of an
entry, and no step adds one that has to be disposed of. -/
def merge (graph : Graph) (n : Nat) : Reading Graph :=
  if (graph.entriesAt n).any graph.isSpecial then
    mergeInto n [] graph (2 * graph.entryCount + 2)
  else .ok graph

end GridPuzzle.Yaml.Graph

/-! ## The walk -/

namespace GridPuzzle.Yaml

def setTag : String := standardTag "set"

/-- The tags of sequences of pairs, each written as a mapping with one entry. -/
def pairTags : List String := [standardTag "omap", standardTag "pairs"]

def collectionTags : List String := sequenceTag :: mappingTag :: setTag :: pairTags

/-- How far a walk has come: the merged graph, the values of scalars, and the collections in the
order in which they were reached. -/
structure Walk where
  graph : Graph
  scalars : Array (Option Value)
  isReached : Array Bool
  collections : Array Nat

namespace Walk

def start (graph : Graph) : Walk where
  graph := graph
  scalars := Array.replicate graph.size none
  isReached := Array.replicate graph.size false
  collections := #[]

/-- The text of a scalar. A mapping stands for the scalar under its equals sign. -/
def scalarText (graph : Graph) (n : Nat) : (fuel : Nat) → Reading String
  | 0 => .error .tooDeep
  | fuel + 1 =>
    match graph.contentAt n with
    | .scalar text => .ok text
    | .sequence _ => .error .malformed
    | .mapping entries =>
      match entries.find? fun (key, _) ↦ graph.tagAt key == valueTag with
      | some (_, value) => scalarText graph value fuel
      | none => .error .malformed

/-- The value of a vertex that has the tag of a scalar. A mapping stands for no date. -/
def scalarAt (graph : Graph) (n : Nat) : Reading Value := do
  let tag := graph.tagAt n
  let text ← scalarText graph n (graph.size + 1)
  match graph.contentAt n with
  | .mapping _ => if tag == stampTag then throw .notScalar else scalarValue tag text
  | _ => scalarValue tag text

/-- Reaches a vertex, if it has not been reached before. -/
def reach (walk : Walk) (n : Nat) : Reading Walk :=
  if walk.isReached[n]?.getD true then .ok walk
  else
    let walk := { walk with isReached := walk.isReached.setIfInBounds n true }
    let tag := walk.graph.tagAt n
    if collectionTags.contains tag then .ok { walk with collections := walk.collections.push n }
    else do
      let value ← scalarAt walk.graph n
      return { walk with scalars := walk.scalars.setIfInBounds n (some value) }

def reachEntry (walk : Walk) (entry : Nat × Nat) : Reading Walk := do
  let walk ← walk.reach entry.1
  if collectionTags.contains (walk.graph.tagAt entry.1) then throw .malformed
  walk.reach entry.2

def reachPair (walk : Walk) (item : Nat) : Reading Walk :=
  match walk.graph.contentAt item with
  | .mapping [(first, second)] => do (← walk.reach first).reach second
  | _ => .error .malformed

def enter (walk : Walk) (n : Nat) : Reading Walk :=
  let tag := walk.graph.tagAt n
  match walk.graph.contentAt n with
  | .sequence items =>
    if tag == sequenceTag then items.foldlM reach walk
    else if pairTags.contains tag then items.foldlM reachPair walk
    else .error .malformed
  | .mapping _ =>
    if tag == mappingTag || tag == setTag then do
      let graph ← walk.graph.merge n
      (graph.entriesAt n).foldlM reachEntry { walk with graph }
    else .error .malformed
  | .scalar _ => .error .malformed

/-- Enters the collections from a position on, one after the other. -/
def enterFrom (walk : Walk) (position : Nat) : (fuel : Nat) → Reading Walk
  | 0 => .ok walk
  | fuel + 1 =>
    match walk.collections[position]? with
    | none => .ok walk
    | some n => do enterFrom (← walk.enter n) (position + 1) fuel

end Walk

def Graph.walk (graph : Graph) : Reading Walk := do
  (← (Walk.start graph).reach 0).enterFrom 0 graph.size

end GridPuzzle.Yaml
