import GridPuzzle.Text.CodePoint
import GridPuzzle.Value.Basic

/-!
# The orders of keys and of sets

Texts and bytes are ordered code point by code point, numbers by value, dates and moments by time;
no other two values are comparable. A list of keys can be sorted when each two of its members are
comparable, so a single key always can.
-/

namespace GridPuzzle

/-- The strict order of floating-point numbers by value; a non-number is below and above nothing. -/
def Double.lt (x y : Double) : Bool :=
  let signed (z : Double) : Int :=
    if z.isNegative then Int.ofNat signBit - Int.ofNat z.bits.toNat else Int.ofNat z.bits.toNat
  !x.isNaN && !y.isNaN && signed x < signed y

def Double.ltInt (x : Double) (n : Int) : Bool :=
  !x.isNaN && (if x.isInfinite then x.isNegative
    else Double.withSign x.isNegative x.magnitude.1 < n * x.magnitude.2)

def Double.gtInt (x : Double) (n : Int) : Bool :=
  !x.isNaN && (if x.isInfinite then !x.isNegative
    else n * x.magnitude.2 < Double.withSign x.isNegative x.magnitude.1)

namespace Value

def isNumber : Value → Bool
  | bool _ | int _ | float _ => true
  | _ => false

/-- Whether two values are of one kind that is ordered. -/
def isComparable (a b : Value) : Bool :=
  match a, b with
  | text _, text _ | bytes _, bytes _ | date _, date _ => true
  | moment s, moment t => s.isComparable t
  | _, _ => a.isNumber && b.isNumber

def lt : Value → Value → Bool
  | text s, text t => Text.codePoints s < Text.codePoints t
  | bytes s, bytes t => s.map UInt8.toNat < t.map UInt8.toNat
  | date s, date t => s.daysBefore < t.daysBefore
  | moment s, moment t => s.instant < t.instant
  | float x, float y => x.lt y
  | float x, b => (b.toInt?.map (x.ltInt ·)).getD false
  | a, float y => (a.toInt?.map (y.gtInt ·)).getD false
  | a, b =>
    match a.toInt?, b.toInt? with
    | some m, some n => m < n
    | _, _ => false

/-- The keys in ascending order, if each two of them are comparable. -/
def sortKeys? (keys : List Value) : Option (List Value) :=
  if keys.length ≤ 1 || keys.all (fun key ↦ keys.all key.isComparable) then
    some (keys.mergeSort fun a b ↦ !b.lt a)
  else none

end Value

/-!
## Sets

A set is kept in a table of slots and gives its members slot by slot. A number has a residue that
equal numbers share, and the residue tells where the search for a free slot starts. Members of other
kinds have no place of their own that could be told in advance, and a set that holds one of them
keeps the order in which its members were given.
-/

/-! ### Residues -/

/-- The modulus of residues, a prime number. -/
def residueModulus : Nat := Nat.pow 2 61 - 1

def infinityResidue : Nat := 314159

/-- A residue with the sign of its number; minus one is not in use and gives way to minus two. -/
def signedResidue (negative : Bool) (residue : Nat) : Int :=
  match Double.withSign negative residue with
  | -1 => -2
  | signed => signed

/-- The residue of a floating-point number, half of which is taken by turning a power of two round
the modulus. -/
def Double.residue (x : Double) : Int :=
  if x.isInfinite then signedResidue x.isNegative infinityResidue
  else
    let turns := (x.exponent % 61).toNat
    signedResidue x.isNegative (x.significand * Nat.pow 2 turns % residueModulus)

/-- The residue of a number; other values, and the non-number, have none. -/
def Value.residue? : Value → Option Int
  | .bool b => some b.toNat
  | .int n => some (signedResidue (n < 0) (n.natAbs % residueModulus))
  | .float x => if x.isNaN then none else some x.residue
  | _ => none

namespace SetOrder

/-! ### Slots -/

/-- How many slots there are for a number of members: more than twice as many. -/
def room (count : Nat) : Nat := if count ≤ 4 then 8 else Nat.pow 2 ((2 * count).log2 + 1)

/-- The slots from one on that are tried before the search starts anew. -/
def triedSlots (room start : Nat) : List Nat :=
  if start + 9 < room then List.range' start 10 else [start]

/-- The first free slot of a search. A new start depends on the last one and on what is left of the
residue, five bits of which are dropped each time. -/
def freeSlot (room : Nat) (taken : List Nat) (start left : Nat) : (fuel : Nat) → Nat
  | 0 => start
  | fuel + 1 =>
    match (triedSlots room start).find? (!taken.contains ·) with
    | some slot => slot
    | none =>
      let left := left / 32
      freeSlot room taken ((start * 5 + 1 + left) % room) left fuel

/-- The slot of a residue, which is read as a machine word. -/
def slotOf (room : Nat) (taken : List Nat) (residue : Int) : Nat :=
  let word := (residue % Nat.pow 2 64).toNat
  freeSlot room taken (word % room) word (room + 16)

/-- The slots of residues, one after another. -/
def slots (room : Nat) (residues : List Int) : List Nat :=
  (residues.foldl (fun taken residue ↦ slotOf room taken residue :: taken) []).reverse

end SetOrder

/-- The members of a set in the order in which it gives them. -/
def setOrder (members : List Value) : List Value :=
  match members.mapM Value.residue? with
  | none => members
  | some residues =>
    let slots := SetOrder.slots (SetOrder.room members.length) residues
    ((slots.zip members).mergeSort fun a b ↦ a.1 ≤ b.1).map Prod.snd

end GridPuzzle
