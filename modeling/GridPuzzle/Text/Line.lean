/-!
# Lines

Splitting a text into lines and joining pieces again. A line ends at any of eleven breaks: line
feed, carriage return (alone or with a line feed behind it), vertical tabulation, form feed, three
separator controls, the next-line control and the two Unicode separators. A break at the very end of
a text opens no further line.
-/

namespace GridPuzzle.Text

def isLineBreak (c : Char) : Bool :=
  let n := c.toNat
  (0xa ≤ n && n ≤ 0xd) || (0x1c ≤ n && n ≤ 0x1e) || n == 0x85 || n == 0x2028 || n == 0x2029

/-- The text after its first character; a carriage return with a line feed behind it is one. -/
def afterBreak : List Char → List Char
  | '\r' :: '\n' :: rest => rest
  | _ :: rest => rest
  | [] => []

theorem length_afterBreak_le (s : List Char) : (afterBreak s).length ≤ s.length - 1 := by
  fun_cases afterBreak s <;> simp

/-- The lines of a text without their breaks. -/
def splitLines : List Char → List (List Char)
  | [] => []
  | c :: rest =>
    (c :: rest).takeWhile (!isLineBreak ·)
      :: splitLines (afterBreak ((c :: rest).dropWhile (!isLineBreak ·)))
termination_by s => s.length
decreasing_by
  have hdrop := (List.dropWhile_suffix (l := c :: rest) (!isLineBreak ·)).length_le
  have hafter := length_afterBreak_le ((c :: rest).dropWhile (!isLineBreak ·))
  simp only [List.length_cons] at *
  omega

def lines (s : String) : List String := (splitLines s.toList).map String.ofList

/-- The pieces with a separator between each two of them. -/
def join (sep : String) (pieces : List String) : String :=
  String.ofList (sep.toList.intercalate (pieces.map String.toList))

/-- The lines with a line feed between each two of them. -/
def unlines (ls : List String) : String := join "\n" ls

/-- A text as it is read from a file: every carriage return, with a line feed behind it or not,
becomes a line feed. -/
def normalizeBreaks : List Char → List Char
  | [] => []
  | '\r' :: '\n' :: rest => '\n' :: normalizeBreaks rest
  | '\r' :: rest => '\n' :: normalizeBreaks rest
  | c :: rest => c :: normalizeBreaks rest

end GridPuzzle.Text
