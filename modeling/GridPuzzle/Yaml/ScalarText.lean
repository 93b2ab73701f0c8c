import GridPuzzle.Text.CodePoint
import GridPuzzle.Yaml.Basic

/-!
# The text of scalars

A scalar is written plain, between single or double quotes, or as a block of indented lines. Each
reader takes the text behind the scalar's opening and returns what the scalar says together with the
text behind it. Within a scalar a single line break is folded into a space, and of several breaks
all but the first are kept; a literal block keeps all of them.
-/

namespace GridPuzzle.Yaml

/-! ## Plain scalars -/

/-- Whether a plain scalar cannot go on with a character. -/
def endsPlain (inFlow : Bool) (c : Char) (rest : List Char) : Bool :=
  isWhite c
    || (c == ':' && (startsWhite rest
      || (inFlow && rest.head?.any fun d ↦ [',', '[', ']', '\x7b', '\x7d'].contains d)))
    || (inFlow && [',', '?', '[', ']', '\x7b', '\x7d'].contains c)

/-- The characters of a plain scalar up to white space or its end, and the text behind. -/
def plainRun (inFlow : Bool) : List Char → List Char × List Char
  | [] => ([], [])
  | c :: rest =>
    if endsPlain inFlow c rest then ([], c :: rest)
    else
      let (run, behind) := plainRun inFlow rest
      (c :: run, behind)

/-- White space within a scalar: what it contributes, the text behind it, whether a line ended in
it, and the column behind it if so. -/
structure Gap where
  text : List Char
  rest : List Char
  broke : Bool
  column : Nat

/-- The further breaks of a gap, from the start of a line on; a marker of a document ends the gap
without a text. -/
def furtherBreaks (lineStart : Bool) (column : Nat) (s : List Char) :
    Option (List Char) × List Char × Nat :=
  if lineStart && startsMarker s then (none, s, 0)
  else
    match s with
    | [] => (some [], [], column)
    | c :: rest =>
      if c == ' ' then furtherBreaks false (column + 1) rest
      else if isBreak c then
        let (breaks, behind, column) := furtherBreaks true 0 rest
        (breaks.map (keptBreak c :: ·), behind, column)
      else (some [], c :: rest, column)

/-- A first break and the breaks behind it, folded. -/
def foldBreaks (first : Char) (further : List Char) : List Char :=
  if keptBreak first != '\n' then keptBreak first :: further
  else if further.isEmpty then [' ']
  else further

/-- The white space behind a run of a plain scalar. Tabs are not part of it. -/
def plainGap (s : List Char) : Gap :=
  let spaces := s.takeWhile (· == ' ')
  match s.dropWhile (· == ' ') with
  | [] => ⟨spaces, [], false, 0⟩
  | c :: rest =>
    if isBreak c then
      let (further, behind, column) := furtherBreaks true 0 rest
      ⟨(further.map (foldBreaks c)).getD [], behind, true, column⟩
    else ⟨spaces, c :: rest, false, 0⟩

/-- Whether a plain scalar ends before a gap: nothing is contributed, a comment follows, or the next
line of a block is not indented enough. -/
def Gap.isEnd (inFlow : Bool) (indent : Nat) (gap : Gap) : Bool :=
  gap.text.isEmpty || gap.rest.head? == some '#'
    || (!inFlow && gap.broke && gap.column < indent)

/-- A plain scalar, the gap before its next run being known: what it says, the text behind it, and
whether a line ended just before that. -/
def plainFrom (inFlow : Bool) (indent : Nat) (gap : List Char) (broke : Bool) (s : List Char) :
    (fuel : Nat) → List Char × List Char × Bool
  | 0 => ([], s, broke)
  | fuel + 1 =>
    let (run, behind) := plainRun inFlow s
    if run.isEmpty then ([], s, broke)
    else
      let next := plainGap behind
      if next.isEnd inFlow indent then (gap ++ run, next.rest, next.broke)
      else
        let (more, rest, broke) := plainFrom inFlow indent next.text next.broke next.rest fuel
        (gap ++ run ++ more, rest, broke)

/-- A plain scalar whose further lines are indented by at least `indent` columns. -/
def plainScalar (inFlow : Bool) (indent : Nat) (s : List Char) (fuel : Nat) :
    List Char × List Char × Bool :=
  plainFrom inFlow indent [] false s fuel

/-! ## Quoted scalars -/

/-- The breaks from the start of a line on, white space around them dropped. A marker of a document
must not stand in a quoted scalar. -/
def quotedBreaks? (lineStart : Bool) (s : List Char) : Option (List Char × List Char) :=
  if lineStart && startsMarker s then none
  else
    match s with
    | [] => some ([], [])
    | c :: rest =>
      if isSpaceOrTab c then quotedBreaks? false rest
      else if isBreak c then
        (quotedBreaks? true rest).map fun (breaks, behind) ↦ (keptBreak c :: breaks, behind)
      else some ([], c :: rest)

def quotedGap? (s : List Char) : Option (List Char × List Char) :=
  match s.dropWhile isSpaceOrTab with
  | [] => none
  | c :: rest =>
    if isBreak c then
      (quotedBreaks? true rest).map fun (further, behind) ↦ (foldBreaks c further, behind)
    else some (s.takeWhile isSpaceOrTab, c :: rest)

/-- The characters that stand for another one behind a backslash. -/
def escapes : List (Char × Nat) :=
  [('0', 0), ('a', 7), ('b', 8), ('t', 9), ('\t', 9), ('n', 0xa), ('v', 0xb), ('f', 0xc),
    ('r', 0xd), ('e', 0x1b), (' ', 0x20), ('"', 0x22), ('\\', 0x5c), ('/', 0x2f), ('N', 0x85),
    ('_', 0xa0), ('L', 0x2028), ('P', 0x2029)]

/-- The letters behind which a character is given by so many hexadecimal digits. -/
def hexEscapes : List (Char × Nat) := [('x', 2), ('u', 4), ('U', 8)]

def textOf (n : Nat) : Reading (List Char) :=
  if n < 0x110000 then .ok (Text.ofCodePoint n)
  else if n < 0x80000000 then .error .badSpelling
  else .error .outOfRange

/-- An escape behind its backslash. A break is escaped with all white space behind it. -/
def escape : List Char → Reading (List Char × List Char)
  | [] => .error .malformed
  | c :: rest =>
    match escapes.lookup c, hexEscapes.lookup c with
    | some n, _ => .ok ([Char.ofNat n], rest)
    | none, some width => do
      let digits ← wellFormed ((rest.take width).mapM hexValue?)
      if digits.length != width then throw .malformed
      let text ← textOf (digits.foldl (fun n d ↦ 16 * n + d) 0)
      return (text, rest.drop width)
    | none, none => if isBreak c then wellFormed (quotedBreaks? true rest) else .error .malformed

/-- One step of a quoted scalar: what it contributes and the text behind, or nothing at the end. -/
def quotedStep (double : Bool) : List Char → Reading (Option (List Char) × List Char)
  | [] => .error .malformed
  | c :: rest =>
    if isWhite c then
      wellFormed ((quotedGap? (c :: rest)).map fun (text, behind) ↦ (some text, behind))
    else if double then
      if c == '"' then .ok (none, rest)
      else if c == '\\' then (escape rest).map fun (text, behind) ↦ (some text, behind)
      else .ok (some [c], rest)
    else if c == '\'' then
      match rest with
      | '\'' :: behind => .ok (some ['\''], behind)
      | _ => .ok (none, rest)
    else .ok (some [c], rest)

def quotedScalar (double : Bool) (s : List Char) : (fuel : Nat) → Reading (List Char × List Char)
  | 0 => .error .malformed
  | fuel + 1 => do
    match ← quotedStep double s with
    | (none, behind) => return ([], behind)
    | (some text, behind) =>
      let (more, rest) ← quotedScalar double behind fuel
      return (text ++ more, rest)

/-! ## Block scalars -/

/-- What becomes of the breaks at the end of a block. -/
inductive Chomping where
  | clip
  | strip
  | keep
deriving DecidableEq

def chomping? (c : Char) : Option Chomping :=
  if c == '+' then some .keep else if c == '-' then some .strip else none

/-- A digit that gives the indentation of a block; zero is none. -/
def indentDigit? (c : Char) : Option Nat :=
  if '1' ≤ c && c ≤ '9' then some (c.toNat - 0x30) else none

/-- The indicators behind the opening of a block, in either order, and the text behind them. -/
def blockIndicators (s : List Char) : Chomping × Option Nat × List Char :=
  match s with
  | [] => (.clip, none, [])
  | c :: rest =>
    match chomping? c, indentDigit? c with
    | some chomping, _ =>
      match rest.head?.bind indentDigit? with
      | some n => (chomping, some n, rest.drop 1)
      | none => (chomping, none, rest)
    | none, some n =>
      match rest.head?.bind chomping? with
      | some chomping => (chomping, some n, rest.drop 1)
      | none => (.clip, some n, rest)
    | none, none => (.clip, none, s)

/-- The text behind the first line of a block, on which only a comment may follow. -/
def blockFirstLine? (s : List Char) : Option (List Char) :=
  match s with
  | [] => some []
  | c :: _ =>
    if c != ' ' && !isBreak c then none
    else
      let rest := s.dropWhile (· == ' ')
      let rest := if rest.head? == some '#' then rest.dropWhile (!isBreak ·) else rest
      match rest with
      | [] => some []
      | d :: behind => if isBreak d then some behind else none

/-- The breaks before the first line with content, the greatest column reached among them, the
column reached last, and the text behind. -/
def leadingBreaks (column : Nat) : List Char → List Char × Nat × Nat × List Char
  | [] => ([], column, column, [])
  | c :: rest =>
    if c == ' ' then leadingBreaks (column + 1) rest
    else if isBreak c then
      let (breaks, greatest, last, behind) := leadingBreaks 0 rest
      (keptBreak c :: breaks, max column greatest, last, behind)
    else ([], column, column, c :: rest)

/-- Breaks and the indentation behind each, up to the indentation of the block; the column reached
last, and the text behind. -/
def blockBreaks (indent column : Nat) : List Char → List Char × Nat × List Char
  | [] => ([], column, [])
  | c :: rest =>
    if c == ' ' && column < indent then blockBreaks indent (column + 1) rest
    else if isBreak c then
      let (breaks, last, behind) := blockBreaks indent 0 rest
      (keptBreak c :: breaks, last, behind)
    else ([], column, c :: rest)

/-- The break behind a line and the breaks behind that, between two lines of a block. -/
def betweenLines (folded : Bool) (indented nextIndented : Bool) (first : Option Char)
    (breaks : List Char) : List Char :=
  if folded && first == some '\n' && !indented && !nextIndented then
    if breaks.isEmpty then [' '] else breaks
  else first.toList ++ breaks

/-- The end of a block: the break behind its last line and the empty lines behind that. -/
def blockEnd (chomping : Chomping) (first : Option Char) (breaks : List Char) : List Char :=
  match chomping with
  | .strip => []
  | .clip => first.toList
  | .keep => first.toList ++ breaks

/-- Whether a line of a block starts with white space beyond its indentation. -/
def isIndented (s : List Char) : Bool := s.head?.any isSpaceOrTab

/-- The lines of a block from the first character of one of them on. -/
def blockLines (folded : Bool) (chomping : Chomping) (indent : Nat) (s : List Char) :
    (fuel : Nat) → List Char × List Char
  | 0 => ([], s)
  | fuel + 1 =>
    let line := s.takeWhile (!isBreak ·)
    let rest := s.dropWhile (!isBreak ·)
    let first := rest.head?.map keptBreak
    let (breaks, column, behind) := blockBreaks indent 0 (rest.drop 1)
    if column == indent && !behind.isEmpty then
      let between := betweenLines folded (isIndented s) (isIndented behind) first breaks
      let (more, later) := blockLines folded chomping indent behind fuel
      (line ++ between ++ more, later)
    else (line ++ blockEnd chomping first breaks, behind)

/-- A block scalar behind its opening, in a block indented by `parent` columns less one. -/
def blockScalar? (folded : Bool) (parent : Nat) (s : List Char) :
    Option (List Char × List Char) := do
  let (chomping, increment, s) := blockIndicators s
  let s ← blockFirstLine? s
  let least := max parent 1
  let (breaks, indent, column, behind) :=
    match increment with
    | some n =>
      let indent := least + n - 1
      let (breaks, column, behind) := blockBreaks indent 0 s
      (breaks, indent, column, behind)
    | none =>
      let (breaks, greatest, column, behind) := leadingBreaks 0 s
      (breaks, max least greatest, column, behind)
  if column == indent && !behind.isEmpty then
    let (text, rest) := blockLines folded chomping indent behind (behind.length + 1)
    return (breaks ++ text, rest)
  else return (blockEnd chomping none breaks, behind)

end GridPuzzle.Yaml
