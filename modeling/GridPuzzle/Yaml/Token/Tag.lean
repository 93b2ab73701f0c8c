import GridPuzzle.Yaml.Basic

/-!
# Tags as written

A tag is written in full between angle brackets, or as a handle and the rest of the tag. A handle is
an exclamation mark, two of them, or a word between two of them; what it stands for is said by a
directive before the document, or by the standard. Within a tag the bytes of a character may be
written in base sixteen behind percent signs.
-/

namespace GridPuzzle.Yaml

def isTagChar (c : Char) : Bool :=
  c.isAlphanum || "-_;/?:@&=+$,.!~*'()[]%".toList.contains c

/-- A byte in base sixteen behind a percent sign, and the text behind it. -/
def escapedByte? : List Char → Option (UInt8 × List Char)
  | '%' :: high :: low :: rest => do
    let h ← hexValue? high
    let l ← hexValue? low
    return (UInt8.ofNat (16 * h + l), rest)
  | _ => none

/-- The bytes at the start of a text, each of them escaped, and the text behind them. Behind them
there must be no percent sign. -/
def escapedBytes? (s : List Char) : (fuel : Nat) → Option (List UInt8 × List Char)
  | 0 => none
  | fuel + 1 =>
    if s.head? == some '%' then do
      let (byte, rest) ← escapedByte? s
      let (bytes, behind) ← escapedBytes? rest fuel
      return (byte :: bytes, behind)
    else some ([], s)

/-- The characters of a tag at the start of a text, with all escapes replaced by what they stand
for, and the text behind. -/
def tagChars? (s : List Char) : (fuel : Nat) → Option (List Char × List Char)
  | 0 => none
  | fuel + 1 =>
    match s with
    | [] => some ([], [])
    | '%' :: _ => do
      let (bytes, rest) ← escapedBytes? s fuel
      let text ← String.fromUTF8? ⟨bytes.toArray⟩
      let (more, behind) ← tagChars? rest fuel
      return (text.toList ++ more, behind)
    | c :: rest =>
      if isTagChar c then (tagChars? rest fuel).map fun (more, behind) ↦ (c :: more, behind)
      else some ([], s)

/-- A nonempty run of characters of a tag, and the text behind it. -/
def tagText? (s : List Char) : Option (String × List Char) := do
  guard (s.head?.any isTagChar)
  let run := s.takeWhile isTagChar
  let (text, behind) ← tagChars? s (run.length + 2)
  return (String.ofList text, behind)

/-- A handle of a word between two exclamation marks, or of two of them alone. -/
def longHandle? : List Char → Option (String × List Char)
  | '!' :: s =>
    match s.dropWhile isNameChar with
    | '!' :: rest => some (String.ofList ('!' :: s.takeWhile isNameChar ++ ['!']), rest)
    | _ => none
  | _ => none

/-- The characters up to a blank or a break; a tabulation is none of these here. -/
def upToBlank (s : List Char) : List Char := s.takeWhile fun c ↦ c == '\t' || !isWhite c

/-- A tag at the start of a text, and the text behind it. -/
def tag? (s : List Char) : Option (Token × List Char) :=
  match s with
  | '!' :: '<' :: inside => do
    let (text, rest) ← tagText? inside
    match rest with
    | '>' :: behind => return (.tag text, behind)
    | _ => none
  | '!' :: rest =>
    if startsWhite rest then some (.tag "!", rest)
    else if (upToBlank rest).contains '!' then do
      let (handle, rest) ← longHandle? s
      let (text, behind) ← tagText? rest
      return (.shortTag handle text, behind)
    else (tagText? rest).map fun (text, behind) ↦ (.shortTag "!" text, behind)
  | _ => none

/-- The handle and the beginning of tags that a directive gives, and the text behind. -/
def tagDirective? (s : List Char) : Option (String × String × List Char) := do
  let s := s.dropWhile (· == ' ')
  let (handle, s) ←
    match s with
    | '!' :: ' ' :: _ => some ("!", s.drop 1)
    | _ => longHandle? s
  guard (s.head? == some ' ')
  let (beginning, s) ← tagText? (s.dropWhile (· == ' '))
  return (handle, beginning, s)

/-! ## Tags in full -/

/-- What handles stand for. -/
abbrev Handles := List (String × String)

def standardHandles : Handles := [("!", "!"), ("!!", standardTag "")]

/-- The handles that the directives at the start of a stream give. -/
def givenHandles : List Token → Handles
  | .directive (.tagHandle handle beginning) :: rest => (handle, beginning) :: givenHandles rest
  | .directive _ :: rest => givenHandles rest
  | _ => []

/-- A token with its tag in full. -/
def Token.inFull (handles : Handles) : Token → Token
  | shortTag handle text =>
    match handles.lookup handle with
    | some beginning => tag (beginning ++ text)
    | none => fault .malformed
  | token => token

def tagsInFull (tokens : List Token) : List Token :=
  tokens.map (Token.inFull (givenHandles tokens ++ standardHandles))

end GridPuzzle.Yaml
