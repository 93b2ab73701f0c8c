import GridPuzzle.Error
import GridPuzzle.Text.Line
import GridPuzzle.Value.Order
import GridPuzzle.Yaml.Grammar
import GridPuzzle.Yaml.Graph.Walk
import GridPuzzle.Yaml.Token.Lexer

/-!
# Reading YAML

The value that a text denotes. A text without a document denotes null. The value of a
document is found after the walk through it. A collection from which no way leads back to itself or
to another one that holds itself has a value of its own, which is found once, however often it
stands in the document. The others are linked with each other.

Only a text that is not well formed is a fault of the file that it is read from; the other faults
are of what is written in it. A text with half of a character pair cannot be in a file.
-/

namespace GridPuzzle.Yaml

/-! ## Values of documents -/

namespace Walk

def parts (walk : Walk) (n : Nat) : List Nat :=
  let ofEntry (entry : Nat × Nat) : List Nat := [entry.1, entry.2]
  match walk.graph.contentAt n with
  | .scalar _ => []
  | .mapping entries => entries.flatMap ofEntry
  | .sequence items =>
    if walk.graph.tagAt n == sequenceTag then items
    else items.flatMap fun item ↦ (walk.graph.entriesAt item).flatMap ofEntry

/-- The mapping of entries of which later ones replace earlier ones of the same key. -/
def entriesOf (entries : Entries) : Entries :=
  entries.foldl (fun found (key, value) ↦ Entries.put key value found) []

def collection (walk : Walk) (valueOf : Nat → Value) (n : Nat) : Value :=
  let ofEntry (entry : Nat × Nat) : Value × Value := (valueOf entry.1, valueOf entry.2)
  match walk.graph.contentAt n with
  | .scalar _ => .null
  | .mapping entries =>
    let entries := entriesOf (entries.map ofEntry)
    if walk.graph.tagAt n == setTag then .set (setOrder (entries.map Prod.fst))
    else .mapping entries
  | .sequence items =>
    if walk.graph.tagAt n == sequenceTag then .list (items.map valueOf)
    else
      .list (items.flatMap fun item ↦
        (walk.graph.entriesAt item).map fun entry ↦ .tuple [valueOf entry.1, valueOf entry.2])

inductive Status where
  | untouched
  /-- Its parts are being looked at. -/
  | underway
  | finite (v : Value)
  /-- A way leads to a collection that holds itself. -/
  | endless
deriving Inhabited

def Status.value? : Status → Option Value
  | finite v => some v
  | _ => none

def Status.isUntouched : Status → Bool
  | untouched => true
  | _ => false

def Status.isEndless : Status → Bool
  | endless => true
  | _ => false

abbrev Statuses := Array Status

namespace Statuses

def valueAt (statuses : Statuses) (n : Nat) : Value := (statuses[n]?.bind Status.value?).getD .null

def isFinite (statuses : Statuses) (n : Nat) : Bool := (statuses[n]?.bind Status.value?).isSome

end Statuses

/-- Looks at a vertex, after the vertices from which it is reached. -/
def look (walk : Walk) (statuses : Statuses) (n : Nat) : (fuel : Nat) → Statuses
  | 0 => statuses
  | fuel + 1 =>
    if !statuses[n]?.any Status.isUntouched then statuses
    else
      match (walk.scalars[n]?).join with
      | some v => statuses.setIfInBounds n (.finite v)
      | none =>
        let parts := walk.parts n
        let statuses := parts.foldl (fun statuses part ↦ look walk statuses part fuel)
          (statuses.setIfInBounds n .underway)
        let status : Status :=
          if parts.all (Statuses.isFinite statuses) then
            .finite (walk.collection (Statuses.valueAt statuses) n)
          else .endless
        statuses.setIfInBounds n status

def value (walk : Walk) : Value :=
  let size := walk.graph.size
  let statuses : Statuses := walk.look (Array.replicate size .untouched) 0 (size + 1)
  if Statuses.isFinite statuses 0 then Statuses.valueAt statuses 0
  else
    let endless := (List.range size).filter fun n ↦ statuses[n]?.any Status.isEndless
    let valueOf (n : Nat) : Value :=
      if Statuses.isFinite statuses n then Statuses.valueAt statuses n else .link (endless.idxOf n)
    .linked (endless.map (walk.collection valueOf)) (endless.idxOf 0)

end Walk

/-! ## Texts and files -/

def Node.toValue (node : Node) : Reading Value := do
  let graph ← wellFormed (Graph.ofNode? node)
  return (← graph.walk).value

/-- The value that a text denotes. -/
def read (text : String) : Reading Value := do
  match ← Node.ofTokens (tokens (Text.normalizeBreaks text.toList)) with
  | none => return .null
  | some node => node.toValue

def Fault.toError (path : String) : Fault → Error
  | .malformed => .invalidYaml path
  | .tooDeep => .misuse .tooDeep
  | .badSpelling => .misuse .wrongValue
  | .outOfRange => .misuse .overflow
  | .emptyNumber => .misuse .missingItem
  | .unknownWord => .misuse .missingKey
  | .notTimestamp => .misuse .missingAttribute
  | .notScalar => .misuse .wrongType

def readFile (path text : String) : Except Error Value :=
  if Text.isEncodable text then (read text).mapError (Fault.toError path)
  else .error (.misuse .unencodable)

end GridPuzzle.Yaml
