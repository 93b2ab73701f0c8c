import GridPuzzle.Double
import GridPuzzle.Error
import GridPuzzle.Value.Order

/-!
# Untyped numbers

A number that is given where an integer is meant may be a floating-point number, and a truth value
counts as zero or one. Sums stay integers as long as all their parts are. What is compared may be
anything that is ordered, sequences among them.
-/

namespace GridPuzzle

inductive Number where
  | int (n : Int)
  | float (x : Double)
deriving DecidableEq, Inhabited

namespace Number

def toValue : Number → Value
  | int n => .int n
  | float x => .float x

/-- The integer, if the number is of that kind. -/
def asInt? : Number → Option Int
  | int n => some n
  | float _ => none

/-- A number from a value; a truth value counts as zero or one. -/
def read : Value → Except Error Number
  | .int n => .ok (int n)
  | .bool b => .ok (int b.toNat)
  | .float x => .ok (float x)
  | _ => .error .wrongType

def toDouble : Number → Except Error Double
  | float x => .ok x
  | int n =>
    match Double.ofInt? n with
    | some x => .ok x
    | none => .error (.misuse .overflow)

/-- The sum, which is a floating-point number if one of the two is. -/
def add : Number → Number → Except Error Number
  | int m, int n => .ok (int (m + n))
  | a, b => do return float ((← a.toDouble).add (← b.toDouble))

def neg : Number → Number
  | int n => int (-n)
  | float x => float x.neg

def sub (a b : Number) : Except Error Number := a.add b.neg

def text (x : Number) : String := x.toValue.literal

def isWritable (x : Number) : Bool := x.toValue.isWritable

end Number

namespace Value

mutual

/-- Whether a value comes before another one, or is equal to it unless the order is strict. The two
must be ordered. -/
def precedes (strict : Bool) : Value → Value → Except Error Bool
  | list xs, list ys => itemsPrecede strict xs ys
  | tuple xs, tuple ys => itemsPrecede strict xs ys
  | a, b =>
    if a.isComparable b then .ok (a.lt b || (!strict && a.same b)) else .error .wrongType

/-- The order of sequences is that of the first items in which they differ; a sequence is behind
those that it starts with. -/
def itemsPrecede (strict : Bool) : List Value → List Value → Except Error Bool
  | [], ys => .ok (!strict || !ys.isEmpty)
  | _ :: _, [] => .ok false
  | x :: xs, y :: ys => if x.same y then itemsPrecede strict xs ys else precedes strict x y

end

def isAtMost (a b : Value) : Except Error Bool := precedes false a b

def isBelow (a b : Value) : Except Error Bool := precedes true a b

end Value

end GridPuzzle
