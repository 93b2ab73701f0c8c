import GridPuzzle.Text.Char

/-!
# Integers as text

Writing an integer in base ten and reading one in a base. The written form is the usual one. The
readable forms are wider: white space around, a sign, digits of any script, and single underscores
between digits. Numerals in base ten have at most `maxDigits` digits, in reading and in writing.
-/

namespace GridPuzzle.Text

/-! ## Writing -/

def digitChar (d : Nat) : Char := Char.ofNat (0x30 + d)

/-- The digits of a natural number, most significant first. -/
def decimal (n : Nat) : List Char :=
  if n < 10 then [digitChar n] else decimal (n / 10) ++ [digitChar (n % 10)]
termination_by n
decreasing_by omega

/-- A natural number in base ten. -/
def natText (n : Nat) : String := String.ofList (decimal n)

/-- An integer in base ten, a minus sign in front when it is negative. -/
def intText : Int → String
  | .ofNat n => natText n
  | .negSucc n => "-" ++ natText (n + 1)

/-- The most digits that a numeral in base ten may have. -/
def maxDigits : Nat := 4300

/-- The least natural number with more digits than a numeral may have. -/
def leastUnwritable : Nat := Nat.pow 10 maxDigits

def isWritable (n : Int) : Bool := n.natAbs < leastUnwritable

/-! ## Reading -/

/-- The number denoted by digits, the value so far being `acc`. -/
def digitsFrom? (acc : Nat) : List Char → Option Nat
  | [] => some acc
  | c :: rest => (digitValue? c).bind fun d ↦ digitsFrom? (10 * acc + d) rest

/-- The number denoted by digits of any script; at least one digit is needed. -/
def digits? : List Char → Option Nat
  | [] => none
  | c :: rest => digitsFrom? 0 (c :: rest)

/-- Why a text denotes no integer. -/
inductive NumeralFault where
  | unreadable
  | tooLong (digits : Nat)
deriving DecidableEq, Inhabited

/-- The value of a digit of a base up to sixteen. -/
def baseDigit? (base : Nat) (c : Char) : Option Nat :=
  let value? :=
    if 'a' ≤ c && c ≤ 'f' then some (c.toNat - 0x57)
    else if 'A' ≤ c && c ≤ 'F' then some (c.toNat - 0x37)
    else digitValue? c
  value?.filter (· < base)

/-- The values of the digits at the start of a text and the text behind them. A single underscore
may stand between two digits; `needed` says that a digit has to come next. -/
def digitRun? (base : Nat) (needed : Bool) : List Char → Option (List Nat × List Char)
  | [] => if needed then none else some ([], [])
  | c :: rest =>
    match baseDigit? base c with
    | some d => (digitRun? base false rest).map fun (digits, behind) ↦ (d :: digits, behind)
    | none =>
      if needed then none
      else if c == '_' then digitRun? base true rest
      else some ([], c :: rest)

/-- The sign of a text that starts with at most one, and the text behind it. -/
def splitSign : List Char → Bool × List Char
  | '-' :: rest => (true, rest)
  | '+' :: rest => (false, rest)
  | s => (false, s)

/-- The letters that mark a base behind a zero. -/
def baseMarks : Nat → List Char
  | 2 => ['b', 'B']
  | 8 => ['o', 'O']
  | 16 => ['x', 'X']
  | _ => []

/-- The text behind the mark of a base, if it starts with one. One underscore may follow it. -/
def behindMark (base : Nat) : List Char → List Char
  | '0' :: c :: rest =>
    if (baseMarks base).contains c then if rest.head? == some '_' then rest.drop 1 else rest
    else '0' :: c :: rest
  | s => s

/-- The integer that a text denotes in a base. -/
def readIn (base : Nat) (s : List Char) : Except NumeralFault Int :=
  let (negative, body) := splitSign (trimSpaces s)
  match digitRun? base true (behindMark base body) with
  | none => .error .unreadable
  | some (digits, rest) =>
    if base == 10 && digits.length > maxDigits then .error (.tooLong digits.length)
    else if !rest.isEmpty then .error .unreadable
    else
      let n := digits.foldl (fun n d ↦ base * n + d) 0
      .ok (if negative then -(n : Int) else n)

def readInt (s : String) : Except NumeralFault Int := readIn 10 s.toList

end GridPuzzle.Text
