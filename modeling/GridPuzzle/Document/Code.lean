import GridPuzzle.Text.Char
import GridPuzzle.Text.Line
import GridPuzzle.Text.Word

/-!
# The code of an emitted document

The code is the text without its comments. Names are declared in it by items that stand at the start
of a line, such as `int: rows = 4;` or `array[1..3] of var int: xs;`, and by predicates and
functions. Only the text up to the declared name and one character behind it is looked at. An array
declaration is also found in the middle of a line.
-/

namespace GridPuzzle.Document

/-- The text without its comments: every line up to its first percent sign. -/
def codeOf (text : String) : List Char :=
  ['\n'].intercalate ((Text.splitLines text.toList).map (·.takeWhile (· != '%')))

def behind? : (beginning : List Char) → List Char → Option (List Char)
  | [], s => some s
  | _ :: _, [] => none
  | b :: bs, c :: s => if b == c then behind? bs s else none

/-- The text behind a nonempty run of characters with a given one behind it. -/
def behindRun? (inRun : Char → Bool) (closing : Char) (s : List Char) : Option (List Char) :=
  match s.takeWhile inRun, s.dropWhile inRun with
  | _ :: _, c :: rest => if c == closing then some rest else none
  | _, _ => none

/-- The text behind an index set and its opening bracket: all up to the first closing one. -/
def behindIndexSet? (s : List Char) : Option (List Char) :=
  match s.dropWhile (· != ']') with
  | _ :: rest => some rest
  | [] => none

/-! ## Items -/

def skipBlanks (s : List Char) : List Char := s.dropWhile Text.isSpaceOrTab

/-- The characters of the type that stands before the colon of an item. -/
def isTypeChar (c : Char) : Bool := Text.isWord c || c == '.' || Text.isSpaceOrTab c

/-- The text behind `of` with at least one blank on both sides, the last of them dropped only from
the count: the type behind it may start with blanks of its own. -/
def behindOf? (isBlank : Char → Bool) (s : List Char) : Option (List Char) := do
  guard (s.head?.any isBlank)
  let s ← behind? "of".toList (s.dropWhile isBlank)
  match s with
  | c :: rest => if isBlank c then some rest else none
  | [] => none

/-- The text behind the type and the colon of an item at the start of a line. -/
def behindItemType? (line : List Char) : Option (List Char) :=
  match behind? "array[".toList (skipBlanks line) with
  | some inside => do
    let s ← behindIndexSet? inside
    let s ← behindOf? Text.isSpaceOrTab s
    behindRun? isTypeChar ':' s
  | none => behindRun? isTypeChar ':' line

/-- A declared name at the start of a text: an ASCII letter and word characters. -/
def nameOf? (s : List Char) : Option (List Char × List Char) :=
  match s with
  | [] => none
  | c :: rest =>
    if Text.isAsciiLetter c then some (c :: rest.takeWhile Text.isWord, rest.dropWhile Text.isWord)
    else none

/-- The name an item at the start of a line declares, and the text behind the item's head. -/
def item? (line : List Char) : Option (List Char × List Char) := do
  let s ← behindItemType? line
  let (name, s) ← nameOf? (skipBlanks s)
  match skipBlanks s with
  | c :: rest => if c == '=' || c == ';' then some (name, rest) else none
  | [] => none

/-! ## Predicates and functions -/

/-- The text behind the keyword of a predicate or test, or behind the type of a function. -/
def behindPredicateKeyword? (s : List Char) : Option (List Char) :=
  behind? "predicate".toList s
    <|> behind? "test".toList s
    <|> (behind? "function".toList s).bind
      (behindRun? (fun c ↦ c != ':' && c != '\n') ':')

/-- The name a predicate or function at the start of a line declares. -/
def predicate? (line : List Char) : Option (List Char) := do
  let s ← behindPredicateKeyword? (skipBlanks line)
  let (name, s) ← nameOf? (skipBlanks s)
  guard ((skipBlanks s).head? == some '(')
  return name

/-- The names declared in a text, where `skip` counts the characters that belong to an item found
before, and `lineStart` says whether a line starts here. -/
def declaredFrom (skip : Nat) (lineStart : Bool) : List Char → List (List Char)
  | [] => []
  | c :: rest =>
    let found := if lineStart && skip == 0 then item? (c :: rest) else none
    match found with
    | some (name, behind) => name :: declaredFrom (rest.length - behind.length) (c == '\n') rest
    | none =>
      let here := if lineStart then (predicate? (c :: rest)).toList else []
      here ++ declaredFrom (skip - 1) (c == '\n') rest

/-- The names of the items and predicates that a document declares, in order. -/
def declaredNames (text : String) : List String :=
  (declaredFrom 0 true (codeOf text)).map String.ofList

/-! ## Arrays -/

/-- The name an array declaration declares, and the text behind it. -/
def array? (s : List Char) : Option (List Char × List Char) := do
  let s ← behind? "array[".toList s
  let s ← behindIndexSet? s
  let s ← behindOf? Text.isBlank s
  let s ← behindRun? (fun c ↦ c != ':' && c != ';') ':' s
  let s := Text.trimStart s
  let name := s.takeWhile Text.isIdentifierChar
  guard (name.head?.any Text.isAsciiLetter)
  return (name, s.dropWhile Text.isIdentifierChar)

/-- The arrays declared in a text, where `skip` counts the characters that belong to a declaration
found before, and `inWord` says whether a word character stands before the text. -/
def arraysFrom (skip : Nat) (inWord : Bool) : List Char → List (List Char)
  | [] => []
  | c :: rest =>
    let found := if !inWord && skip == 0 then array? (c :: rest) else none
    match found with
    | some (name, behind) => name :: arraysFrom (rest.length - behind.length) (Text.isWord c) rest
    | none => arraysFrom (skip - 1) (Text.isWord c) rest

/-- The names of the arrays that code declares, at the start of a line or not. -/
def declaredArrays (code : List Char) : List String := (arraysFrom 0 false code).map String.ofList

end GridPuzzle.Document
