import GridPuzzle.Double
import GridPuzzle.Value.Basic
import GridPuzzle.Yaml.Implicit

/-!
# Values of scalars

The value of a scalar under its tag. Under an explicit tag every spelling is read that the readers
of numbers know, so the spellings of plain scalars are only some of them. Underscores in numbers do
not count.
-/

/-!
## Base sixty-four

Bytes written with sixty-four characters, four for every three bytes. Characters that are none of
these are passed over, and an equals sign that completes a group of four ends the text.
-/

namespace GridPuzzle.Text.Base64

/-- The value of one of the sixty-four characters. -/
def value? (c : Char) : Option Nat :=
  if c.isUpper then some (c.toNat - 0x41)
  else if c.isLower then some (c.toNat - 0x61 + 26)
  else if c.isDigit then some (c.toNat - 0x30 + 52)
  else if c == '+' then some 62
  else if c == '/' then some 63
  else none

/-- The bytes of a text behind `count` characters of a group, of which the bits not yet used have
the value `left`, and behind `pads` equals signs. A group that is not complete has no bytes. -/
def decodeFrom (count left pads : Nat) : List Char → Option (List UInt8)
  | [] => if count == 0 then some [] else none
  | c :: rest =>
    if c == '=' then
      if count ≥ 2 && count + pads + 1 ≥ 4 then some []
      else decodeFrom count left (if count ≥ 2 then pads + 1 else pads) rest
    else
      match value? c, count with
      | none, _ => decodeFrom count left pads rest
      | some v, 0 => decodeFrom 1 v 0 rest
      | some v, 1 => (decodeFrom 2 (v % 16) 0 rest).map (UInt8.ofNat (left * 4 + v / 16) :: ·)
      | some v, 2 => (decodeFrom 3 (v % 4) 0 rest).map (UInt8.ofNat (left * 16 + v / 4) :: ·)
      | some v, _ => (decodeFrom 0 0 0 rest).map (UInt8.ofNat (left * 64 + v) :: ·)

def decode? (s : List Char) : Option (List UInt8) := decodeFrom 0 0 0 s

end GridPuzzle.Text.Base64

/-! ## Words -/

namespace GridPuzzle.Yaml

def binaryTag : String := standardTag "binary"

/-- The truth value of a word in letters of either case. -/
def boolOf (text : String) : Reading Bool :=
  let word := text.toLower
  if ["yes", "true", "on"].contains word then .ok true
  else if ["no", "false", "off"].contains word then .ok false
  else .error .unknownWord

def withoutUnderscores (s : List Char) : List Char := s.filter (· != '_')

/-! ## Integers -/

def integerIn (base : Nat) (s : List Char) : Reading Int :=
  (Text.readIn base s).mapError fun _ ↦ .badSpelling

/-- The integer of sexagesimal parts, most significant first. -/
def sexagesimalOf (parts : List (List Char)) : Reading Int := do
  let digits ← parts.mapM (integerIn 10)
  return digits.foldl (fun n digit ↦ 60 * n + digit) 0

/-- The integer of a spelling behind its sign. -/
def unsignedOf (s : List Char) : Reading Int :=
  match s with
  | [] => .error .emptyNumber
  | ['0'] => .ok 0
  | '0' :: 'b' :: digits => integerIn 2 digits
  | '0' :: 'x' :: digits => integerIn 16 digits
  | '0' :: _ => integerIn 8 s
  | _ => if s.contains ':' then sexagesimalOf (s.splitOn ':') else integerIn 10 s

def intOf (text : String) : Reading Int :=
  match withoutUnderscores text.toList with
  | [] => .error .emptyNumber
  | c :: rest =>
    (unsignedOf (behindSign (c :: rest))).map fun n ↦ if c == '-' then -n else n

/-! ## Floating-point numbers -/

def doubleOf (s : List Char) : Reading Double :=
  match Double.ofText? s with
  | some x => .ok x
  | none => .error .badSpelling

/-- The sum of sexagesimal parts, least significant first, of which the first stands for units of
`base`. Each product and each sum is rounded. -/
def sexagesimalSum (sum : Double) (base : Nat) : List Double → Reading Double
  | [] => .ok sum
  | digit :: rest =>
    match Double.ofInt? base with
    | some factor => sexagesimalSum (sum.add (digit.mul factor)) (60 * base) rest
    | none => .error .outOfRange

/-- The floating-point number of a spelling behind its sign, in lower-case letters. -/
def unsignedFloatOf (s : List Char) : Reading Double :=
  if s == ".inf".toList then .ok (.infinity false)
  else if s == ".nan".toList then .ok .nan
  else if s.contains ':' then do
    let digits ← (s.splitOn ':').mapM doubleOf
    sexagesimalSum (.zero false) 1 digits.reverse
  else doubleOf s

def floatOf (text : String) : Reading Double :=
  match withoutUnderscores (text.toLower.toList) with
  | [] => .error .emptyNumber
  | c :: rest =>
    (unsignedFloatOf (behindSign (c :: rest))).map fun x ↦ if c == '-' then x.neg else x

/-! ## Bytes, dates and moments -/

/-- What is there, if its spelling means anything. -/
def wellSpelled {α : Type} : Option α → Reading α
  | some a => .ok a
  | none => .error .badSpelling

def bytesOf (text : String) : Reading (List UInt8) :=
  if text.toList.all (·.toNat < 0x80) then wellFormed (Text.Base64.decode? text.toList)
  else .error .malformed

def stampOf (text : String) : Reading Value :=
  match Stamp.read? (beforeFinalBreak text.toList) with
  | none => .error .notTimestamp
  | some stamp =>
    match stamp.time with
    | none => wellSpelled (stamp.date?.map Value.date)
    | some time => wellSpelled ((stamp.date?.bind (Stamp.moment? · time)).map Value.moment)

/-! ## Scalars -/

/-- The value of a scalar under a tag. -/
def scalarValue (tag text : String) : Reading Value :=
  if tag == textTag then .ok (.text text)
  else if tag == nullTag then .ok .null
  else if tag == boolTag then (boolOf text).map Value.bool
  else if tag == intTag then (intOf text).map Value.int
  else if tag == floatTag then (floatOf text).map Value.float
  else if tag == binaryTag then (bytesOf text).map Value.bytes
  else if tag == stampTag then stampOf text
  else .error .malformed

end GridPuzzle.Yaml
