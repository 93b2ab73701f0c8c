import GridPuzzle.Yaml.Basic

/-!
# The node of a document

Nodes are read from tokens by one function for each kind of place: a node, the items of a block or
flow sequence, the entries of a block or flow mapping. Every function returns what it read and the
tokens behind. The first token that does not fit is at fault, unless it tells of a fault itself. A
stream holds at most one document, and its collections are nested to a bounded depth.
-/

namespace GridPuzzle.Yaml

namespace Node

/-- The anchor and the tag before a node, in either order. -/
def properties (tokens : List Token) : Option String × Option String × List Token :=
  match tokens with
  | .anchor name :: .tag tag :: rest => (some name, some tag, rest)
  | .tag tag :: .anchor name :: rest => (some name, some tag, rest)
  | .anchor name :: rest => (some name, none, rest)
  | .tag tag :: rest => (none, some tag, rest)
  | _ => (none, none, tokens)

def withAnchor (anchor : Option String) (node : Node) : Node :=
  match anchor with
  | some name => .anchored name node
  | none => node

/-- Which collections may start at a place. -/
structure Place where
  block : Bool
  indentless : Bool

def Place.inFlow : Place := ⟨false, false⟩
def Place.inBlock : Place := ⟨true, false⟩
def Place.inEntry : Place := ⟨true, true⟩

/-- The tokens at which a node has been left out. -/
def isLeftOut (ends : List Token) (tokens : List Token) : Bool :=
  tokens.head?.any ends.contains

/-- The fault of tokens of which the first does not fit. -/
def unexpected {α : Type} : List Token → Reading α
  | .fault cause :: _ => .error cause
  | _ => .error .malformed

/-- The tokens behind the comma between two items. -/
def separator (isFirst : Bool) (tokens : List Token) : Reading (List Token) :=
  if isFirst then .ok tokens
  else
    match tokens with
    | .flowEntry :: rest => .ok rest
    | _ => unexpected tokens

/-- The empty node of an anchor or a tag that stands alone. -/
def emptyWith (anchor tag : Option String) (tokens : List Token) : Reading (Node × List Token) :=
  if (anchor.isSome || tag.isSome) && !tokens.head?.any Token.isFault then
    .ok (withAnchor anchor (.scalar tag "" true), tokens)
  else unexpected tokens

/-- The most collections that may be nested. -/
def maxDepth : Nat := 486

mutual

/-- A node at a place below which `room` collections may still be nested. -/
def read (place : Place) (room : Nat) (tokens : List Token) :
    (fuel : Nat) → Reading (Node × List Token)
  | 0 => unexpected tokens
  | fuel + 1 =>
    match tokens with
    | .aliasTo name :: rest => .ok (.aliasTo name, rest)
    | _ => do
      let (anchor, tag, tokens) := properties tokens
      match ← content place room tag tokens fuel with
      | some (node, rest) => return (withAnchor anchor node, rest)
      | none => emptyWith anchor tag tokens
termination_by structural fuel => fuel

def content (place : Place) (room : Nat) (tag : Option String) (tokens : List Token) :
    (fuel : Nat) → Reading (Option (Node × List Token))
  | 0 => unexpected tokens
  | fuel + 1 =>
    let nested {α : Type} (wrap : α → Node) (found : Nat → Reading (α × List Token)) :
        Reading (Option (Node × List Token)) :=
      match room with
      | 0 => .error .tooDeep
      | room + 1 => (found room).map fun (inside, rest) ↦ some (wrap inside, rest)
    match tokens with
    | .scalar text isPlain :: rest => .ok (some (.scalar tag text isPlain, rest))
    | .flowSequenceStart :: rest =>
      nested (.sequence tag) fun room ↦ flowItems true room rest fuel
    | .flowMappingStart :: rest =>
      nested (.mapping tag) fun room ↦ flowEntries true room rest fuel
    | .blockSequenceStart :: rest =>
      if place.block then nested (.sequence tag) fun room ↦ blockItems room rest fuel
      else .ok none
    | .blockMappingStart :: rest =>
      if place.block then nested (.mapping tag) fun room ↦ blockEntries room rest fuel
      else .ok none
    | .blockEntry :: _ =>
      if place.indentless then nested (.sequence tag) fun room ↦ indentlessItems room tokens fuel
      else .ok none
    | _ => .ok none
termination_by structural fuel => fuel

/-- A node at a place, or an empty one before certain tokens. -/
def readOr (ends : List Token) (place : Place) (room : Nat) (tokens : List Token) :
    (fuel : Nat) → Reading (Node × List Token)
  | 0 => unexpected tokens
  | fuel + 1 =>
    if isLeftOut ends tokens then .ok (.empty, tokens) else read place room tokens fuel
termination_by structural fuel => fuel

def blockItems (room : Nat) (tokens : List Token) :
    (fuel : Nat) → Reading (List Node × List Token)
  | 0 => unexpected tokens
  | fuel + 1 =>
    match tokens with
    | .blockEntry :: rest => do
      let (item, rest) ← readOr [.blockEntry, .blockEnd] .inBlock room rest fuel
      let (items, rest) ← blockItems room rest fuel
      return (item :: items, rest)
    | .blockEnd :: rest => .ok ([], rest)
    | _ => unexpected tokens
termination_by structural fuel => fuel

/-- The items of a block sequence that is not indented within the mapping around it. -/
def indentlessItems (room : Nat) (tokens : List Token) :
    (fuel : Nat) → Reading (List Node × List Token)
  | 0 => unexpected tokens
  | fuel + 1 =>
    match tokens with
    | .blockEntry :: rest => do
      let (item, rest) ← readOr [.blockEntry, .key, .value, .blockEnd] .inBlock room rest fuel
      let (items, rest) ← indentlessItems room rest fuel
      return (item :: items, rest)
    | _ => .ok ([], tokens)
termination_by structural fuel => fuel

def blockEntries (room : Nat) (tokens : List Token) :
    (fuel : Nat) → Reading (List (Node × Node) × List Token)
  | 0 => unexpected tokens
  | fuel + 1 =>
    let ends : List Token := [.key, .value, .blockEnd]
    match tokens with
    | .key :: rest => do
      let (key, rest) ← readOr ends .inEntry room rest fuel
      let (value, rest) ←
        match rest with
        | .value :: rest => readOr ends .inEntry room rest fuel
        | _ => .ok (.empty, rest)
      let (entries, rest) ← blockEntries room rest fuel
      return ((key, value) :: entries, rest)
    | .blockEnd :: rest => .ok ([], rest)
    | _ => unexpected tokens
termination_by structural fuel => fuel

/-- The items of a flow sequence up to its end. An item may be a single entry of a mapping. -/
def flowItems (isFirst : Bool) (room : Nat) (tokens : List Token) :
    (fuel : Nat) → Reading (List Node × List Token)
  | 0 => unexpected tokens
  | fuel + 1 =>
    match tokens with
    | .flowSequenceEnd :: rest => .ok ([], rest)
    | _ => do
      let tokens ← separator isFirst tokens
      match tokens with
      | .flowSequenceEnd :: rest => return ([], rest)
      | .key :: rest =>
        let ends : List Token := [.flowEntry, .flowSequenceEnd]
        let (key, rest) ← readOr (.value :: ends) .inFlow room rest fuel
        let (value, rest) ←
          match rest with
          | .value :: rest => readOr ends .inFlow room rest fuel
          | _ => .ok (.empty, rest)
        let (items, rest) ← flowItems false room rest fuel
        return (.mapping none [(key, value)] :: items, rest)
      | _ =>
        let (item, rest) ← read .inFlow room tokens fuel
        let (items, rest) ← flowItems false room rest fuel
        return (item :: items, rest)
termination_by structural fuel => fuel

/-- The entries of a flow mapping up to its end. A key may stand without a value. -/
def flowEntries (isFirst : Bool) (room : Nat) (tokens : List Token) :
    (fuel : Nat) → Reading (List (Node × Node) × List Token)
  | 0 => unexpected tokens
  | fuel + 1 =>
    match tokens with
    | .flowMappingEnd :: rest => .ok ([], rest)
    | _ => do
      let tokens ← separator isFirst tokens
      match tokens with
      | .flowMappingEnd :: rest => return ([], rest)
      | .key :: rest =>
        let ends : List Token := [.flowEntry, .flowMappingEnd]
        let (key, rest) ← readOr (.value :: ends) .inFlow room rest fuel
        let (value, rest) ←
          match rest with
          | .value :: rest => readOr ends .inFlow room rest fuel
          | _ => .ok (.empty, rest)
        let (entries, rest) ← flowEntries false room rest fuel
        return ((key, value) :: entries, rest)
      | _ =>
        let (key, rest) ← read .inFlow room tokens fuel
        let (entries, rest) ← flowEntries false room rest fuel
        return ((key, .empty) :: entries, rest)
termination_by structural fuel => fuel

end

/-! ## Documents -/

/-- Whether one of two directives must not stand beside the other: both give the version, or both
give the same handle. -/
def clash : Directive → Directive → Bool
  | .version, .version => true
  | .tagHandle handle _, .tagHandle other _ => handle == other
  | _, _ => false

/-- The tokens behind the directives before a document, of which no two clash. -/
def behindDirectives (seen : List Directive) : List Token → Reading (List Token)
  | .directive content :: rest =>
    if seen.any (clash content) then .error .malformed
    else behindDirectives (content :: seen) rest
  | .documentStart :: rest => .ok rest
  | tokens => unexpected tokens

def isDocumentEnd (token : Token) : Bool := token == .documentEnd

/-- The tokens of the document are followed by nothing but the end of the document. -/
def checkEnd (tokens : List Token) : Reading Unit :=
  match tokens.dropWhile isDocumentEnd with
  | [] => .ok ()
  | rest => unexpected rest

/-- The node of a document that starts with a marker or a directive. -/
def explicitDocument (tokens : List Token) (fuel : Nat) : Reading (Node × List Token) := do
  match ← behindDirectives [] tokens with
  | [] => return (.empty, [])
  | .documentStart :: rest => return (.empty, .documentStart :: rest)
  | .documentEnd :: rest => return (.empty, .documentEnd :: rest)
  | .directive content :: rest => return (.empty, .directive content :: rest)
  | content => read .inBlock maxDepth content fuel

/-- The node of a stream's only document, or nothing for a stream without one. -/
def ofTokens (tokens : List Token) : Reading (Option Node) :=
  let fuel := 4 * tokens.length + 4
  match tokens with
  | [] => .ok none
  | .directive _ :: _ | .documentStart :: _ => do
    let (node, rest) ← explicitDocument tokens fuel
    checkEnd rest
    return some node
  | _ => do
    let (node, rest) ← read .inBlock maxDepth tokens fuel
    checkEnd rest
    return some node

end Node

end GridPuzzle.Yaml
