import GridPuzzle.Text.Integer

/-!
# Binary floating-point numbers

A number of the binary64 format, held as its bit pattern, so that equal data are equal terms. Every
operation works on the exact value `significand * 2 ^ exponent`: the integer it may stand for, the
rounding of a fraction to the nearest number, and the shortest decimal that reads back.

A number is read with a point, an exponent, both or neither, in the digits of any script, with a
sign in front and white space around; the infinities and the non-number are read as words. Sums and
products are exact and then rounded once to the nearest number.
-/

namespace GridPuzzle

/-- A binary64 number as its bit pattern. -/
structure Double where
  bits : UInt64
deriving DecidableEq, Inhabited

namespace Double

def signBit : Nat := 0x8000000000000000

/-- The least significand of a normal number; the fraction bits stand below it. -/
def hiddenBit : Nat := 0x10000000000000

/-- The exponent field of the infinities and non-numbers. -/
def topExponent : Nat := 0x7ff

/-- A power, one where the exponent is negative. -/
def power (base : Nat) (exponent : Int) : Nat := base.pow exponent.toNat

def isNegative (x : Double) : Bool := x.bits.toNat ≥ signBit

def exponentField (x : Double) : Nat := x.bits.toNat / hiddenBit % (topExponent + 1)

def fraction (x : Double) : Nat := x.bits.toNat % hiddenBit

def isNaN (x : Double) : Bool := x.exponentField == topExponent && x.fraction != 0

def isInfinite (x : Double) : Bool := x.exponentField == topExponent && x.fraction == 0

/-- The significand of a finite number, its hidden bit included. -/
def significand (x : Double) : Nat :=
  if x.exponentField == 0 then x.fraction else hiddenBit + x.fraction

/-- The power of two by which the significand of a finite number is scaled. -/
def exponent (x : Double) : Int := (max x.exponentField 1 : Nat) - 1075

/-- The absolute value of a finite number as a fraction, numerator first. -/
def magnitude (x : Double) : Nat × Nat :=
  (x.significand * power 2 x.exponent, power 2 (-x.exponent))

def withSign (negative : Bool) (n : Nat) : Int := if negative then -(n : Int) else n

/-- The part before the point of a finite number; an infinity or a non-number has none. -/
def truncate? (x : Double) : Option Int :=
  if x.exponentField == topExponent then none
  else some (withSign x.isNegative (x.magnitude.1 / x.magnitude.2))

/-- The integer that a number is equal to. -/
def toInt? (x : Double) : Option Int :=
  if x.magnitude.1 % x.magnitude.2 == 0 then x.truncate? else none

/-- Numerical equality: the two zeros are equal, and a non-number equals nothing. -/
def same (x y : Double) : Bool :=
  !x.isNaN && !y.isNaN && (x == y || (x.significand == 0 && y.significand == 0
    && x.exponentField == 0 && y.exponentField == 0))

def neg (x : Double) : Double := ⟨x.bits ^^^ 0x8000000000000000⟩

/-! ## Rounding -/

/-- The quotient rounded to the nearest integer, a tie to the even one. -/
def roundDiv (num den : Nat) : Nat :=
  let q := num / den
  let twice := 2 * (num % den)
  if twice > den || (twice == den && q % 2 == 1) then q + 1 else q

/-- The power of two at which the significand of the nearest number to `num / den` ends. -/
def exponentOf (num den : Nat) : Int :=
  let q := (num.log2 : Int) - den.log2 - 53
  let tooSmall := num * power 2 (-q) / (den * power 2 q) ≥ 2 * hiddenBit
  max (if tooSmall then q + 1 else q) (-1074)

/-- The number nearest to a fraction, a tie to the even significand; beyond the greatest finite
number it is an infinity. -/
def ofFraction (negative : Bool) (num den : Nat) : Double :=
  let sign := if negative then signBit else 0
  if num == 0 then ⟨UInt64.ofNat sign⟩
  else
    let q := exponentOf num den
    let significand := roundDiv (num * power 2 (-q)) (den * power 2 q)
    let bits := (q + 1074).toNat * hiddenBit + significand
    ⟨UInt64.ofNat (sign + min bits (topExponent * hiddenBit))⟩

def zero (negative : Bool) : Double := ofFraction negative 0 1

def infinity (negative : Bool) : Double :=
  ⟨UInt64.ofNat ((if negative then signBit else 0) + topExponent * hiddenBit)⟩

def nan : Double := ⟨0x7ff8000000000000⟩

/-- The number nearest to `digits * 10 ^ scale`. Scales far beyond the range of the format are told
by the length of the digits alone. -/
def ofDecimal (negative : Bool) (digits : Nat) (scale : Int) : Double :=
  if digits == 0 || scale + (digits.log2 / 3 + 1 : Nat) < -330 then zero negative
  else if scale > 310 then infinity negative
  else ofFraction negative (digits * power 10 scale) (power 10 (-scale))

/-! ## The shortest decimal -/

/-- The least `e`, not above `fuel`, with `num * 10 ^ e ≥ den`. -/
def leastScale (num den : Nat) : (fuel : Nat) → Nat
  | 0 => 0
  | fuel + 1 => if num ≥ den then 0 else leastScale (10 * num) den fuel + 1

/-- The exponent of the leading decimal digit of `num / den`. -/
def leadingExponent (num den : Nat) : Int :=
  if num ≥ den then ((Text.decimal (num / den)).length : Int) - 1
  else -(leastScale num den 400 : Int)

/-- The reals that round to a finite number, over four times its denominator: the lower end, the
value, the upper end. Below a power of two the gap is half as wide. -/
def roundingInterval (x : Double) : Nat × Nat × Nat :=
  let unit := power 2 x.exponent
  let below := if x.fraction == 0 && x.exponentField > 1 then unit else 2 * unit
  (4 * x.magnitude.1 - below, 4 * x.magnitude.1, 4 * x.magnitude.1 + 2 * unit)

/-- The multiple of `10 ^ scale` that lies next to a number and reads back as it, if there is one;
of two the nearer, and of two equally near the even one. -/
def gridPoint? (x : Double) (scale : Int) : Option Nat :=
  let (low, mid, high) := x.roundingInterval
  let up := power 10 (-scale)
  let down := 4 * x.magnitude.2 * power 10 scale
  let closed := x.significand % 2 == 0
  let inside (d : Nat) : Bool :=
    if closed then low * up ≤ d * down && d * down ≤ high * up
    else low * up < d * down && d * down < high * up
  let floor := mid * up / down
  let rest := mid * up % down
  match inside floor, inside (floor + 1) with
  | false, false => none
  | true, false => some floor
  | false, true => some (floor + 1)
  | true, true => some (roundDiv (floor * down + rest) down)

/-- The digits and the scale of the shortest decimal that reads back, searched from `count` digits
on. -/
def shortestFrom (x : Double) (lead : Int) (count : Nat) : (fuel : Nat) → Nat × Int
  | 0 => (0, 0)
  | fuel + 1 =>
    let scale := lead - count + 1
    match x.gridPoint? scale with
    | some digits => (digits, scale)
    | none => shortestFrom x lead (count + 1) fuel

/-- The digits of the shortest decimal that reads back as a finite number other than zero, without
zeros at the end, and the exponent of the first of them. -/
def shortest (x : Double) : List Char × Int :=
  let lead := leadingExponent x.magnitude.1 x.magnitude.2
  let (digits, scale) := shortestFrom x lead 1 17
  let written := Text.decimal digits
  ((written.reverse.dropWhile (· == '0')).reverse, scale + written.length - 1)

/-! ## Text -/

/-- Exponents that are written out in positions; outside of them an exponent is written. -/
def isPositional (exponent : Int) : Bool := -4 ≤ exponent && exponent < 16

/-- Digits with the point behind the first of exponent zero; a whole number ends in `.0`. -/
def positional (digits : List Char) (exponent : Int) : List Char :=
  if exponent < 0 then
    '0' :: '.' :: List.replicate (-exponent - 1).toNat '0' ++ digits
  else
    let whole := exponent.toNat + 1
    let after := digits.drop whole
    digits.take whole ++ List.replicate (whole - digits.length) '0'
      ++ '.' :: (if after.isEmpty then ['0'] else after)

/-- Digits with the point behind the first, then the exponent with its sign and at least two
digits. -/
def scientific (digits : List Char) (exponent : Int) : List Char :=
  let power := Text.decimal exponent.natAbs
  digits.take 1 ++ (if digits.length > 1 then '.' :: digits.drop 1 else [])
    ++ 'e' :: (if exponent < 0 then '-' else '+')
    :: List.replicate (2 - power.length) '0' ++ power

/-- The text of a number: the fewest digits that read back, in positions or with an exponent. -/
def text (x : Double) : String :=
  if x.isNaN then "nan"
  else
    let sign := if x.isNegative then ['-'] else []
    let body :=
      if x.isInfinite then "inf".toList
      else if x.significand == 0 then "0.0".toList
      else
        let (digits, exponent) := x.shortest
        if isPositional exponent then positional digits exponent else scientific digits exponent
    String.ofList (sign ++ body)

/-! ## Reading -/

/-- The exponent at the end of a number: a letter, maybe a sign, and digits; none stands for zero.
-/
def readExponent? : List Char → Option Int
  | [] => some 0
  | e :: rest =>
    let (negative, digits) := Text.splitSign rest
    if e == 'e' || e == 'E' then
      (Text.digits? digits).map fun n ↦ withSign negative n
    else none

/-- A number behind its sign, written in digits. -/
def readDecimal? (negative : Bool) (s : List Char) : Option Double :=
  let whole := s.takeWhile Text.isDigit
  let (part, rest) :=
    match s.dropWhile Text.isDigit with
    | '.' :: behind => (behind.takeWhile Text.isDigit, behind.dropWhile Text.isDigit)
    | behind => ([], behind)
  match Text.digits? (whole ++ part), readExponent? rest with
  | some digits, some exponent => some (ofDecimal negative digits (exponent - part.length))
  | _, _ => none

/-- The number that a text denotes. -/
def ofText? (s : List Char) : Option Double :=
  let (negative, body) := Text.splitSign (Text.trimSpaces s)
  let word := String.ofList (body.map Char.toLower)
  if word == "inf" || word == "infinity" then some (infinity negative)
  else if word == "nan" then some nan
  else readDecimal? negative body

/-! ## Arithmetic -/

/-- The number zero of either sign. -/
def isZero (x : Double) : Bool := x.exponentField == 0 && x.fraction == 0

/-- The numerator of a finite number, with its sign, over the denominator of its magnitude. -/
def numerator (x : Double) : Int := withSign x.isNegative x.magnitude.1

/-- The number nearest to an integer, unless it lies beyond the greatest finite number. -/
def ofInt? (n : Int) : Option Double :=
  let x := ofFraction (n < 0) n.natAbs 1
  if x.isInfinite then none else some x

/-- The sum, which is a negative zero only of two negative zeros. -/
def add (x y : Double) : Double :=
  if x.isNaN || y.isNaN then nan
  else if x.isInfinite then
    if y.isInfinite && x.isNegative != y.isNegative then nan else x
  else if y.isInfinite then y
  else
    let sum := x.numerator * y.magnitude.2 + y.numerator * x.magnitude.2
    if sum == 0 then zero (x.isNegative && y.isNegative)
    else ofFraction (sum < 0) sum.natAbs (x.magnitude.2 * y.magnitude.2)

def mul (x y : Double) : Double :=
  let negative := x.isNegative != y.isNegative
  if x.isNaN || y.isNaN then nan
  else if x.isInfinite || y.isInfinite then
    if x.isZero || y.isZero then nan else infinity negative
  else ofFraction negative (x.magnitude.1 * y.magnitude.1) (x.magnitude.2 * y.magnitude.2)

end Double

end GridPuzzle
