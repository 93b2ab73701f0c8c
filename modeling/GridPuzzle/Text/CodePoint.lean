/-!
# Code points

A text is a sequence of code points, and the halves of surrogate pairs are code points that are no
characters. A surrogate is stored as two characters: a marker and a private character that tells
which surrogate it is. The character that serves as the marker is itself stored twice, so each
sequence of code points has one stored form and is read back from it. Two stored texts are equal
just when they have the same code points, and behind one another they store the code points of
both.
-/

namespace GridPuzzle.Text

/-- The character in front of what is stored as two characters. -/
def marker : Char := '\uffff'

/-- How far behind the surrogates the private characters are that tell them apart. -/
def surrogateShift : Nat := 0x800

def isSurrogate (codePoint : Nat) : Bool := 0xd800 ≤ codePoint && codePoint < 0xe000

def ofCodePoint (codePoint : Nat) : List Char :=
  if isSurrogate codePoint then [marker, Char.ofNat (codePoint + surrogateShift)]
  else if codePoint == marker.toNat then [marker, marker]
  else [Char.ofNat codePoint]

/-- The code point stored as the marker and another character. -/
def marked (c : Char) : Nat := if c == marker then marker.toNat else c.toNat - surrogateShift

/-- The code points of a stored text behind those found so far, which are given last to first. -/
def codePointsFrom (found : List Nat) : List Char → List Nat
  | [] => found.reverse
  | [c] => (c.toNat :: found).reverse
  | c :: d :: rest =>
    if c == marker then codePointsFrom (marked d :: found) rest
    else codePointsFrom (c.toNat :: found) (d :: rest)

def codePoints (s : String) : List Nat := codePointsFrom [] s.toList

def ofCodePoints (s : List Nat) : String := String.ofList (s.flatMap ofCodePoint)

/-- The order of texts by their code points. -/
def isAtMost (s t : String) : Bool := !decide (codePoints t < codePoints s)

/-- Whether a text can be written to a file: it holds no surrogate. -/
def isEncodable (s : String) : Bool := !(codePoints s).any isSurrogate

/-- The stored form of a text that is given as plain characters. -/
def ofPlain (s : String) : String := ofCodePoints (s.toList.map Char.toNat)

/-- A text without surrogates as plain characters. -/
def toPlain (s : String) : String := String.ofList ((codePoints s).map Char.ofNat)

/-! ## Names of files -/

/-- Whether a code point stands for a byte that belongs to no character. -/
def isStrayByte (codePoint : Nat) : Bool := 0xdc80 ≤ codePoint && codePoint < 0xdd00

/-- Whether a text can be the name of a file: its only surrogates are stray bytes. -/
def isNamable (s : String) : Bool :=
  (codePoints s).all fun codePoint ↦ !isSurrogate codePoint || isStrayByte codePoint

/-- The number of bytes of a code point within the name of a file. -/
def byteCount (codePoint : Nat) : Nat :=
  if codePoint < 0x80 || isStrayByte codePoint then 1
  else if codePoint < 0x800 then 2
  else if codePoint < 0x10000 then 3
  else 4

/-- The number of bytes of the name of a file. -/
def nameSize (s : String) : Nat := (codePoints s).foldl (fun size n ↦ size + byteCount n) 0

end GridPuzzle.Text
