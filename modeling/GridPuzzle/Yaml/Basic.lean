/-!
# Characters, tokens and nodes of YAML

What the stages of reading YAML hand on to each other. A stream of characters is split into tokens,
the tokens become a document of nodes, and the nodes get values; each stage may find a fault.
-/

namespace GridPuzzle.Yaml

/-!
## Faults of YAML texts

Why a text has no value. Most faults are of the text's form. The others are those of single scalars,
whose spelling promises a number, a character or a date that does not exist.
-/

/-- Why a text has no value. -/
inductive Fault where
  /-- The text is not well formed. -/
  | malformed
  /-- Collections are nested too deeply. -/
  | tooDeep
  /-- A number, a character or a date is spelled that does not exist. -/
  | badSpelling
  /-- A number is spelled that goes beyond the range of its kind. -/
  | outOfRange
  /-- A number is promised, and nothing is there. -/
  | emptyNumber
  /-- A truth value is promised, and another word is there. -/
  | unknownWord
  /-- A date or a moment is promised, and something of another form is there. -/
  | notTimestamp
  /-- A date or a moment is promised, and a mapping stands for it. -/
  | notScalar
deriving DecidableEq, Inhabited

abbrev Reading (α : Type) := Except Fault α

/-- What is there, if it is well formed. -/
def wellFormed {α : Type} : Option α → Reading α
  | some a => .ok a
  | none => .error .malformed

/-!
## Characters of YAML

The characters that a YAML stream may hold, the line breaks and blanks among them, and the markers
that separate documents. Carriage returns are line feeds by the time a stream is read.
-/

def isAllowed (c : Char) : Bool :=
  let n := c.toNat
  n == 9 || n == 0xa || n == 0xd || (0x20 ≤ n && n ≤ 0x7e) || n == 0x85
    || (0xa0 ≤ n && n ≤ 0xfffd) || 0x10000 ≤ n

def isBreak (c : Char) : Bool :=
  let n := c.toNat
  n == 0xa || n == 0x85 || n == 0x2028 || n == 0x2029

/-- A break as it is kept in a scalar: the next-line control becomes a line feed. -/
def keptBreak (c : Char) : Char := if c.toNat == 0x85 then '\n' else c

def isSpaceOrTab (c : Char) : Bool := c == ' ' || c == '\t'

/-- Blanks and breaks, which end most tokens. -/
def isWhite (c : Char) : Bool := isSpaceOrTab c || isBreak c

/-- Whether the next character is white or the stream ends. -/
def startsWhite : List Char → Bool
  | [] => true
  | c :: _ => isWhite c

/-- Whether a text begins with three equal characters and white space or the end behind them. -/
def startsTriple (mark : Char) : List Char → Bool
  | a :: b :: c :: rest => a == mark && b == mark && c == mark && startsWhite rest
  | _ => false

/-- The markers at the start of a line that begin or end a document. -/
def startsMarker (s : List Char) : Bool := startsTriple '-' s || startsTriple '.' s

/-- Letters, digits, the hyphen and the underscore, of which names of anchors consist. -/
def isNameChar (c : Char) : Bool := c.isAlphanum || c == '-' || c == '_'

def hexValue? (c : Char) : Option Nat :=
  if '0' ≤ c && c ≤ '9' then some (c.toNat - 0x30)
  else if 'a' ≤ c && c ≤ 'f' then some (c.toNat - 0x57)
  else if 'A' ≤ c && c ≤ 'F' then some (c.toNat - 0x37)
  else none

/-!
## Tokens of YAML

A stream as a sequence of tokens. Indentation has become tokens that open and close block
collections, so that what follows no longer looks at columns. The end of the sequence is the end of
the stream, or a fault behind which the stream cannot be split any further.
-/

inductive Directive where
  | version
  /-- The beginning of the tags that are written with a handle. -/
  | tagHandle (handle beginning : String)
  | other
deriving DecidableEq, Inhabited

/-- A piece of a stream. -/
inductive Token where
  | directive (content : Directive)
  | documentStart
  | documentEnd
  | blockSequenceStart
  | blockMappingStart
  | blockEnd
  | flowSequenceStart
  | flowSequenceEnd
  | flowMappingStart
  | flowMappingEnd
  | blockEntry
  | flowEntry
  | key
  | value
  | aliasTo (name : String)
  | anchor (name : String)
  | tag (name : String)
  /-- A tag whose beginning is given by a handle. -/
  | shortTag (handle text : String)
  | scalar (text : String) (isPlain : Bool)
  | fault (cause : Fault)
deriving DecidableEq, Inhabited

def Token.isFault : Token → Bool
  | fault _ => true
  | _ => false

/-- The tag of a name behind two exclamation marks. -/
def standardTag (name : String) : String := "tag:yaml.org,2002:" ++ name

/-!
## Nodes of YAML

A document as a tree of scalars, sequences and mappings. A node may bear an anchor, and an alias
stands for the node of an anchor that starts before it, which may be a node around the alias.
-/

/-- A node of a document. A tag names the kind of a node explicitly. -/
inductive Node where
  | scalar (tag : Option String) (text : String) (isPlain : Bool)
  | sequence (tag : Option String) (items : List Node)
  | mapping (tag : Option String) (entries : List (Node × Node))
  | aliasTo (name : String)
  | anchored (name : String) (node : Node)
deriving Inhabited

def Node.empty : Node := .scalar none "" true

end GridPuzzle.Yaml
