/-!
# Classes of characters

A class of characters such as "word characters" is a set of code points made of some hundred ranges.
It is stored as the increasing list of the code points at which membership changes, starting from
"not a member": a code point belongs to the set exactly when an odd number of changes lies at or
below it. Membership is one binary search. White space and digits, which numbers and declarations
are read with, are classes given here.
-/

namespace GridPuzzle.Text

/-- A set of characters as the increasing code points at which membership changes. -/
structure CharSet where
  changes : Array Nat

namespace CharSet

/-- How many of the changes from `low` up to `high` exclusive lie at or below `n`, counted from the
start of the array; `low` changes are known to and those from `high` on are known not to. -/
def countFrom (changes : Array Nat) (n low : Nat) : (width : Nat) → Nat
  | 0 => low
  | width + 1 =>
    let half := width / 2
    if (changes[low + half]?).any (· ≤ n) then
      countFrom changes n (low + half + 1) (width - half)
    else
      countFrom changes n low half
termination_by width => width
decreasing_by all_goals omega

def contains (set : CharSet) (c : Char) : Bool :=
  countFrom set.changes c.toNat 0 set.changes.size % 2 == 1

end CharSet

/-!
## White space

Besides the spaces and breaks of ASCII, the four separator controls from `U+001C` on, the next-line
control and every space of the Unicode standard are white space; the zero-width space is not. A
number may stand in white space other than the separator controls.
-/

/-- White space: the ASCII blanks, the separator controls and the Unicode spaces. -/
def isBlank (c : Char) : Bool :=
  let n := c.toNat
  (9 ≤ n && n ≤ 13) || (0x1c ≤ n && n ≤ 0x20) || n == 0x85 || n == 0xa0 || n == 0x1680
    || (0x2000 ≤ n && n ≤ 0x200a) || n == 0x2028 || n == 0x2029 || n == 0x202f || n == 0x205f
    || n == 0x3000

def trimStart (s : List Char) : List Char := s.dropWhile isBlank

def trimEnd (s : List Char) : List Char := (trimStart s.reverse).reverse

def trim (s : List Char) : List Char := trimEnd (trimStart s)

/-- The text without the white space around it. -/
def strip (s : String) : String := String.ofList (trim s.toList)

/-- The text without the white space at its end. -/
def stripEnd (s : String) : String := String.ofList (trimEnd s.toList)

/-- The white space that may stand around a number: all but the separator controls. -/
def isSpace (c : Char) : Bool := isBlank c && !(0x1c ≤ c.toNat && c.toNat ≤ 0x1f)

/-- The text without the white space that may stand around a number. -/
def trimSpaces (s : List Char) : List Char :=
  ((s.dropWhile isSpace).reverse.dropWhile isSpace).reverse

/-- A text that holds nothing but white space; the empty text is one. -/
def isBlankText (s : String) : Bool := s.toList.all isBlank

/-- The space and the tab, the only white space that a declaration line may start with. -/
def isSpaceOrTab (c : Char) : Bool := c == ' ' || c == '\t'

/-!
## Digits

A decimal digit of any script has a value from 0 to 9; each script has ten of them in a row, so the
zeros determine all. The wider class of digit-like characters adds superscripts, circled numbers
and the like, which look like digits and have no place in a positional numeral.
-/

/-- The code points of the digit zero in the scripts beyond ASCII. -/
def digitZeros : List Nat :=
  [
    0x660, 0x6f0, 0x7c0, 0x966, 0x9e6, 0xa66, 0xae6, 0xb66, 0xbe6, 0xc66, 0xce6, 0xd66,
    0xde6, 0xe50, 0xed0, 0xf20, 0x1040, 0x1090, 0x17e0, 0x1810, 0x1946, 0x19d0, 0x1a80, 0x1a90,
    0x1b50, 0x1bb0, 0x1c40, 0x1c50, 0xa620, 0xa8d0, 0xa900, 0xa9d0, 0xa9f0, 0xaa50, 0xabf0,
    0xff10, 0x104a0, 0x10d30, 0x11066, 0x110f0, 0x11136, 0x111d0, 0x112f0, 0x11450, 0x114d0,
    0x11650, 0x116c0, 0x11730, 0x118e0, 0x11950, 0x11c50, 0x11d50, 0x11da0, 0x16a60, 0x16ac0,
    0x16b50, 0x1d7ce, 0x1d7d8, 0x1d7e2, 0x1d7ec, 0x1d7f6, 0x1e140, 0x1e2f0, 0x1e950, 0x1fbf0
  ]

/-- The value of a decimal digit of any script. -/
def digitValue? (c : Char) : Option Nat :=
  let n := c.toNat
  if n < 0x80 then
    if 0x30 ≤ n ∧ n < 0x3a then some (n - 0x30) else none
  else
    (digitZeros.find? fun start ↦ start ≤ n && n < start + 10).map (n - ·)

def isDigit (c : Char) : Bool := (digitValue? c).isSome

/-- The digit-like characters: decimal digits, superscripts, subscripts, circled digits. -/
def digitLike : CharSet where
  changes := #[
    0x30, 0x3a, 0xb2, 0xb4, 0xb9, 0xba, 0x660, 0x66a, 0x6f0, 0x6fa, 0x7c0, 0x7ca, 0x966, 0x970,
    0x9e6, 0x9f0, 0xa66, 0xa70, 0xae6, 0xaf0, 0xb66, 0xb70, 0xbe6, 0xbf0, 0xc66, 0xc70, 0xce6,
    0xcf0, 0xd66, 0xd70, 0xde6, 0xdf0, 0xe50, 0xe5a, 0xed0, 0xeda, 0xf20, 0xf2a, 0x1040, 0x104a,
    0x1090, 0x109a, 0x1369, 0x1372, 0x17e0, 0x17ea, 0x1810, 0x181a, 0x1946, 0x1950, 0x19d0,
    0x19db, 0x1a80, 0x1a8a, 0x1a90, 0x1a9a, 0x1b50, 0x1b5a, 0x1bb0, 0x1bba, 0x1c40, 0x1c4a,
    0x1c50, 0x1c5a, 0x2070, 0x2071, 0x2074, 0x207a, 0x2080, 0x208a, 0x2460, 0x2469, 0x2474,
    0x247d, 0x2488, 0x2491, 0x24ea, 0x24eb, 0x24f5, 0x24fe, 0x24ff, 0x2500, 0x2776, 0x277f,
    0x2780, 0x2789, 0x278a, 0x2793, 0xa620, 0xa62a, 0xa8d0, 0xa8da, 0xa900, 0xa90a, 0xa9d0,
    0xa9da, 0xa9f0, 0xa9fa, 0xaa50, 0xaa5a, 0xabf0, 0xabfa, 0xff10, 0xff1a, 0x104a0, 0x104aa,
    0x10a40, 0x10a44, 0x10d30, 0x10d3a, 0x10e60, 0x10e69, 0x11052, 0x1105b, 0x11066, 0x11070,
    0x110f0, 0x110fa, 0x11136, 0x11140, 0x111d0, 0x111da, 0x112f0, 0x112fa, 0x11450, 0x1145a,
    0x114d0, 0x114da, 0x11650, 0x1165a, 0x116c0, 0x116ca, 0x11730, 0x1173a, 0x118e0, 0x118ea,
    0x11950, 0x1195a, 0x11c50, 0x11c5a, 0x11d50, 0x11d5a, 0x11da0, 0x11daa, 0x16a60, 0x16a6a,
    0x16ac0, 0x16aca, 0x16b50, 0x16b5a, 0x1d7ce, 0x1d800, 0x1e140, 0x1e14a, 0x1e2f0, 0x1e2fa,
    0x1e950, 0x1e95a, 0x1f100, 0x1f10b, 0x1fbf0, 0x1fbfa
  ]

def isDigitLike (c : Char) : Bool := digitLike.contains c

end GridPuzzle.Text
