import GridPuzzle.Yaml.ScalarText
import GridPuzzle.Yaml.Token.Tag

/-!
# The tokens of a stream

The lexer keeps the position, the columns of the open block collections, the depth of flow
collections, and for every depth the token that may turn out to be the key of an entry. Such a
simple key is on one line and not long; when a colon follows it, a key token is put before it, and
with the first key of a block mapping a token that opens the mapping.
-/

namespace GridPuzzle.Yaml

/-- A token that may turn out to be a key. -/
structure SimpleKey where
  tokenIndex : Nat
  required : Bool
  index : Nat
  line : Nat
  column : Nat

/-- The state of the lexer. A column of an open block collection is counted from one, and zero
stands for the stream itself. The possible keys are kept per depth, the innermost first. -/
structure Lexer where
  rest : List Char
  /-- The number of characters that are left. -/
  left : Nat
  index : Nat := 0
  line : Nat := 0
  column : Nat := 0
  tokens : Array Token := #[]
  indent : Nat := 0
  outer : List Nat := []
  allowKey : Bool := true
  keys : List (Option SimpleKey) := [none]

namespace Lexer

def inFlow (lexer : Lexer) : Bool := lexer.keys.length > 1

/-- Moves the position over one character. -/
def advance (lexer : Lexer) (c : Char) : Lexer :=
  if isBreak c then
    { lexer with index := lexer.index + 1, line := lexer.line + 1, column := 0 }
  else
    { lexer with
      index := lexer.index + 1
      column := if c.toNat == 0xfeff then lexer.column else lexer.column + 1 }

def moveBy (lexer : Lexer) (count : Nat) : Lexer :=
  let moved := (lexer.rest.take count).foldl advance lexer
  { moved with rest := lexer.rest.drop count, left := lexer.left - count }

/-- Adds a token of some characters and moves behind them. -/
def emit (lexer : Lexer) (token : Token) (count : Nat) : Lexer :=
  let lexer := lexer.moveBy count
  { lexer with tokens := lexer.tokens.push token }

def emitUpTo (lexer : Lexer) (token : Token) (rest : List Char) : Lexer :=
  lexer.emit token (lexer.left - rest.length)

/-! ## Indentation -/

/-- Closes the block collections that are indented beyond a column, which is counted from one. -/
def closeBlocks (lexer : Lexer) (column : Nat) : Lexer :=
  if lexer.inFlow then lexer
  else
    let levels := lexer.indent :: lexer.outer
    let closed := levels.takeWhile (· > column)
    let tokens := lexer.tokens ++ Array.replicate closed.length Token.blockEnd
    match levels.drop closed.length with
    | [] => { lexer with tokens := tokens, indent := 0, outer := [] }
    | indent :: outer => { lexer with tokens := tokens, indent := indent, outer := outer }

def insert (lexer : Lexer) (index : Nat) (tokens : Array Token) : Lexer :=
  let all := lexer.tokens
  { lexer with tokens := all.extract 0 index ++ tokens ++ all.extract index all.size }

/-- Opens a block collection at a column, counted from zero, unless one is open there; its opening
token and others are put before the token of an index. -/
def openBlock (lexer : Lexer) (column index : Nat) (opening : Token) (others : Array Token) :
    Lexer :=
  if !lexer.inFlow && lexer.indent < column + 1 then
    { lexer.insert index (#[opening] ++ others) with
      indent := column + 1
      outer := lexer.indent :: lexer.outer }
  else lexer.insert index others

/-! ## Simple keys -/

/-- Whether a possible key can no longer be one. -/
def isStale (lexer : Lexer) (key : SimpleKey) : Bool :=
  key.line != lexer.line || lexer.index - key.index > 1024

/-- Forgets the keys that can no longer be one; a required key must not be among them. -/
def dropStale? (lexer : Lexer) : Option Lexer :=
  if lexer.keys.any (·.any fun key ↦ key.required && lexer.isStale key) then none
  else
    let keep (key : SimpleKey) : Bool := !lexer.isStale key
    some { lexer with keys := lexer.keys.map (·.filter keep) }

/-- Forgets the possible key of this depth; it must not be required. -/
def dropKey? (lexer : Lexer) : Option Lexer :=
  match lexer.keys with
  | some key :: outer => if key.required then none else some { lexer with keys := none :: outer }
  | _ => some lexer

/-- Remembers that the next token may be a key, if keys may stand here. -/
def saveKey? (lexer : Lexer) : Option Lexer :=
  if lexer.allowKey then do
    let lexer ← lexer.dropKey?
    let key : SimpleKey :=
      { tokenIndex := lexer.tokens.size
        required := !lexer.inFlow && lexer.indent == lexer.column + 1
        index := lexer.index, line := lexer.line, column := lexer.column }
    return { lexer with keys := some key :: lexer.keys.drop 1 }
  else some lexer

/-! ## Tokens -/

/-- A marker of a document, which closes all block collections. -/
def marker? (lexer : Lexer) (token : Token) : Option Lexer := do
  let lexer ← (lexer.closeBlocks 0).dropKey?
  return { lexer with allowKey := false }.emit token 3

/-- The number of a version and the text behind it. -/
def versionNumber? (s : List Char) : Option (Nat × List Char) :=
  let digits := s.takeWhile Char.isDigit
  if digits.isEmpty then none
  else some (digits.foldl (fun n c ↦ 10 * n + (c.toNat - 0x30)) 0, s.dropWhile Char.isDigit)

/-- The text behind the version of a directive; only the first major version is read. -/
def behindVersion? (s : List Char) : Option (List Char) := do
  let (major, s) ← versionNumber? (s.dropWhile (· == ' '))
  guard (major == 1 && s.head? == some '.')
  let (_, s) ← versionNumber? (s.drop 1)
  return s

/-- What a directive of a name says, and the text behind it. Of directives with other names
everything up to the end of the line is passed over. -/
def directiveContent? (name : String) (s : List Char) : Option (Directive × List Char) :=
  if name == "YAML" then (behindVersion? s).map (Directive.version, ·)
  else if name == "TAG" then
    (tagDirective? s).map fun (handle, beginning, rest) ↦ (.tagHandle handle beginning, rest)
  else some (.other, s.dropWhile (!isBreak ·))

def directive? (lexer : Lexer) : Option Lexer := do
  let lexer ← (lexer.closeBlocks 0).dropKey?
  let name := (lexer.rest.drop 1).takeWhile isNameChar
  let s := (lexer.rest.drop 1).dropWhile isNameChar
  guard (!name.isEmpty && startsWhite s && s.head? != some '\t')
  let (content, s) ← directiveContent? (String.ofList name) s
  guard (startsWhite s && s.head? != some '\t')
  let s := s.dropWhile (· == ' ')
  let s := if s.head? == some '#' then s.dropWhile (!isBreak ·) else s
  guard (s.isEmpty || s.head?.any isBreak)
  return { lexer with allowKey := false }.emitUpTo (.directive content) s

/-- The opening of a flow collection, which may itself be a key. -/
def flowStart? (lexer : Lexer) (token : Token) : Option Lexer := do
  let lexer ← lexer.saveKey?
  return { lexer with keys := none :: lexer.keys, allowKey := true }.emit token 1

def flowEnd? (lexer : Lexer) (token : Token) : Option Lexer := do
  guard lexer.inFlow
  let lexer ← lexer.dropKey?
  return { lexer with keys := lexer.keys.drop 1, allowKey := false }.emit token 1

def flowEntry? (lexer : Lexer) : Option Lexer := do
  let lexer ← lexer.dropKey?
  return { lexer with allowKey := true }.emit .flowEntry 1

def blockEntry? (lexer : Lexer) : Option Lexer := do
  guard (lexer.inFlow || lexer.allowKey)
  let lexer := lexer.openBlock lexer.column lexer.tokens.size .blockSequenceStart #[]
  let lexer ← lexer.dropKey?
  return { lexer with allowKey := true }.emit .blockEntry 1

def key? (lexer : Lexer) : Option Lexer := do
  guard (lexer.inFlow || lexer.allowKey)
  let lexer := lexer.openBlock lexer.column lexer.tokens.size .blockMappingStart #[]
  let lexer ← lexer.dropKey?
  return { lexer with allowKey := !lexer.inFlow }.emit .key 1

/-- The colon before a value: behind a simple key, or on its own. -/
def value? (lexer : Lexer) : Option Lexer := do
  match lexer.keys with
  | some key :: outer =>
    let lexer := { lexer with keys := none :: outer }
    let lexer := lexer.openBlock key.column key.tokenIndex .blockMappingStart #[.key]
    return { lexer with allowKey := false }.emit .value 1
  | _ =>
    guard (lexer.inFlow || lexer.allowKey)
    let lexer := lexer.openBlock lexer.column lexer.tokens.size .blockMappingStart #[]
    return { lexer with allowKey := !lexer.inFlow }.emit .value 1

/-- A quoted scalar behind its opening quote, which may be a key. -/
def quoted (lexer : Lexer) (double : Bool) (behind : List Char) : Reading Lexer := do
  let lexer ← wellFormed lexer.saveKey?
  let (text, rest) ← quotedScalar double behind (lexer.left + 1)
  return { lexer with allowKey := false }.emitUpTo (.scalar (String.ofList text) false) rest

/-- Adds a token that may be a key, and after which no key may start. -/
def emitKeyable? (lexer : Lexer) (token : Token) (rest : List Char) : Option Lexer := do
  let lexer ← lexer.saveKey?
  return { lexer with allowKey := false }.emitUpTo token rest

/-- The name of an anchor or alias, and the text behind it. -/
def anchorName? (s : List Char) : Option (String × List Char) :=
  let name := s.takeWhile isNameChar
  let rest := s.dropWhile isNameChar
  let ends := startsWhite rest
    || rest.head?.any fun c ↦ ['?', ':', ',', ']', '\x7d', '%', '@', '\x60'].contains c
  if name.isEmpty || !ends then none else some (String.ofList name, rest)

/-- A tag with a blank, a break or the end behind it. -/
def tag? (lexer : Lexer) : Option Lexer := do
  let (token, rest) ← Yaml.tag? lexer.rest
  guard (startsWhite rest && rest.head? != some '\t')
  lexer.emitKeyable? token rest

/-- A block scalar, behind which a key may start. -/
def blockScalar? (lexer : Lexer) (folded : Bool) : Option Lexer := do
  let lexer ← lexer.dropKey?
  let (text, rest) ← Yaml.blockScalar? folded lexer.indent (lexer.rest.drop 1)
  return { lexer with allowKey := true }.emitUpTo (.scalar (String.ofList text) false) rest

/-- A plain scalar. A key may start behind it if a line has ended. -/
def plain? (lexer : Lexer) : Option Lexer := do
  let (text, rest, broke) :=
    plainScalar lexer.inFlow lexer.indent lexer.rest (lexer.left + 1)
  let lexer ← lexer.emitKeyable? (.scalar (String.ofList text) true) rest
  return { lexer with allowKey := broke }

/-- Whether a plain scalar can start here. -/
def startsPlain (inFlow : Bool) : List Char → Bool
  | [] => false
  | c :: rest =>
    !(isWhite c || "-?:,[]\x7b\x7d#&*!|>'\"%@\x60".toList.contains c)
      || (!startsWhite rest && (c == '-' || (!inFlow && (c == '?' || c == ':'))))

/-- The number of characters of white space and comments, and whether a line ends among them. -/
def filler (inComment : Bool) (count : Nat) (broke : Bool) : List Char → Nat × Bool
  | [] => (count, broke)
  | c :: rest =>
    if isBreak c then filler false (count + 1) true rest
    else if inComment || c == ' ' then filler inComment (count + 1) broke rest
    else if c == '#' then filler true (count + 1) broke rest
    else (count, broke)

/-- Moves over white space and comments, and closes what ends with the indentation. -/
def toNextToken? (lexer : Lexer) : Option Lexer := do
  let (count, broke) := filler false 0 false lexer.rest
  let lexer := lexer.moveBy count
  let lexer := { lexer with allowKey := lexer.allowKey || (broke && !lexer.inFlow) }
  let lexer ← lexer.dropStale?
  return lexer.closeBlocks (lexer.column + 1)

/-- The token that starts with a character at the position, a quoted scalar excepted. -/
def token? (lexer : Lexer) (c : Char) (behind : List Char) : Option Lexer :=
  let atLineStart := lexer.column == 0
  let alone := startsWhite behind
  match c with
  | '[' => lexer.flowStart? .flowSequenceStart
  | ']' => lexer.flowEnd? .flowSequenceEnd
  | '\x7b' => lexer.flowStart? .flowMappingStart
  | '\x7d' => lexer.flowEnd? .flowMappingEnd
  | ',' => lexer.flowEntry?
  | '*' => (anchorName? behind).bind fun (name, rest) ↦ lexer.emitKeyable? (.aliasTo name) rest
  | '&' => (anchorName? behind).bind fun (name, rest) ↦ lexer.emitKeyable? (.anchor name) rest
  | '!' => lexer.tag?
  | _ =>
    if c == '%' && atLineStart then lexer.directive?
    else if atLineStart && startsTriple '-' lexer.rest then lexer.marker? .documentStart
    else if atLineStart && startsTriple '.' lexer.rest then lexer.marker? .documentEnd
    else if c == '-' && alone then lexer.blockEntry?
    else if c == '?' && (lexer.inFlow || alone) then lexer.key?
    else if c == ':' && (lexer.inFlow || alone) then lexer.value?
    else if c == '|' && !lexer.inFlow then lexer.blockScalar? false
    else if c == '>' && !lexer.inFlow then lexer.blockScalar? true
    else if startsPlain lexer.inFlow lexer.rest then lexer.plain?
    else none

/-- The token that starts with a character at the position. -/
def token (lexer : Lexer) (c : Char) (behind : List Char) : Reading Lexer :=
  if c == '"' || c == '\'' then lexer.quoted (c == '"') behind
  else wellFormed (lexer.token? c behind)

def finish? (lexer : Lexer) : Option (Array Token) := (lexer.closeBlocks 0).dropKey?.map tokens

def run (lexer : Lexer) : (fuel : Nat) → Array Token
  | 0 => lexer.tokens.push (.fault .malformed)
  | fuel + 1 =>
    match lexer.toNextToken? with
    | none => lexer.tokens.push (.fault .malformed)
    | some lexer =>
      match lexer.rest with
      | [] => lexer.finish?.getD (lexer.tokens.push (.fault .malformed))
      | c :: behind =>
        match lexer.token c behind with
        | .error cause => lexer.tokens.push (.fault cause)
        | .ok lexer => run lexer fuel

def tokensOf (stream : List Char) : List Token :=
  (run { rest := stream, left := stream.length } (stream.length + 1)).toList

end Lexer

/-- The tokens of a stream, with all tags in full. -/
def tokens (stream : List Char) : List Token :=
  if stream.all isAllowed then
    let stream := if stream.head?.any (·.toNat == 0xfeff) then stream.drop 1 else stream
    tagsInFull (Lexer.tokensOf stream)
  else [.fault .malformed]

end GridPuzzle.Yaml
