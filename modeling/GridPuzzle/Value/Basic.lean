import GridPuzzle.Double
import GridPuzzle.Text.CodePoint
import GridPuzzle.Timestamp

/-!
# Untyped values

What a description, a table or a catalog file holds before it is read: scalars, sequences and
mappings in the order in which they were written. A collection may hold itself, and is then given by
all collections on the way back to it. Equality is by meaning: the truth values are the numbers one
and zero, an integer equals the floating-point number of the same value, and mappings are equal when
they hold equal entries in any order.
-/

namespace GridPuzzle

/-- A value as it is found outside, before a reader gives it a type. -/
inductive Value where
  | null
  | bool (b : Bool)
  | int (n : Int)
  | float (x : Double)
  | text (s : String)
  | bytes (data : List UInt8)
  | date (day : Date)
  | moment (time : Moment)
  | list (items : List Value)
  | tuple (items : List Value)
  | set (members : List Value)
  | mapping (entries : List (Value × Value))
  /-- A collection from which a way leads to a collection that holds itself: one of several
  collections, in which links stand for these collections. -/
  | linked (collections : List Value) (start : Nat)
  /-- The collection of a number, within linked collections only. -/
  | link (target : Nat)
deriving Inhabited

namespace Value

/-! ## Linked collections -/

/-- A value found in linked collections as a value of its own. -/
def follow (collections : List Value) : Value → Value
  | link n => linked collections n
  | v => v

/-- An item of a linked collection as a value of its own; an item may be a pair. -/
def followItem (collections : List Value) : Value → Value
  | tuple items => tuple (items.map (follow collections))
  | v => follow collections v

/-- The value with its outermost collection in view, so that no collection is linked. -/
def opened : Value → Value
  | linked collections n =>
    match collections[n]? with
    | some (list items) => list (items.map (followItem collections))
    | some (mapping entries) =>
      mapping (entries.map fun (key, value) ↦ (key, follow collections value))
    | some v => v
    | none => null
  | v => v

def list? (v : Value) : Option (List Value) :=
  match v.opened with
  | list items => some items
  | _ => none

def entries? (v : Value) : Option (List (Value × Value)) :=
  match v.opened with
  | mapping entries => some entries
  | _ => none

/-! ## Equality -/

/-- The integer that a number or a truth value is equal to. -/
def toInt? : Value → Option Int
  | bool b => some b.toNat
  | int n => some n
  | float x => x.toInt?
  | _ => none

def text? : Value → Option String
  | text s => some s
  | _ => none

/-- An integer proper, which a truth value is not. -/
def asInt? : Value → Option Int
  | int n => some n
  | _ => none

def sameScalar (a b : Value) : Bool :=
  match a, b with
  | null, null => true
  | text s, text t => s == t
  | float x, float y => x.same y
  | bytes s, bytes t => s == t
  | date s, date t => s == t
  | moment s, moment t => s.same t
  | _, _ =>
    match a.toInt?, b.toInt? with
    | some m, some n => m == n
    | _, _ => false

mutual

/-- Equality by meaning. -/
def same : Value → Value → Bool
  | list xs, list ys => sameItems xs ys
  | tuple xs, tuple ys => sameItems xs ys
  | set xs, set ys => xs.length == ys.length && sameMembers xs ys
  | mapping xs, mapping ys => xs.length == ys.length && sameEntries xs ys
  | a, b => sameScalar a b

def sameItems : List Value → List Value → Bool
  | [], [] => true
  | x :: xs, y :: ys => same x y && sameItems xs ys
  | _, _ => false

def sameMembers : List Value → List Value → Bool
  | [], _ => true
  | x :: xs, ys => ys.any (same x) && sameMembers xs ys

def sameEntries : List (Value × Value) → List (Value × Value) → Bool
  | [], _ => true
  | (key, value) :: rest, ys =>
    ys.any (fun entry ↦ same key entry.1 && same value entry.2) && sameEntries rest ys

end

mutual

/-- The values that may be the key of a mapping: all but lists, sets and mappings and what holds one
of them. -/
def isKey : Value → Bool
  | list _ | set _ | mapping _ | linked _ _ => false
  | tuple items => areKeys items
  | _ => true

def areKeys : List Value → Bool
  | [] => true
  | v :: rest => isKey v && areKeys rest

end

mutual

/-- Whether a value is free of collections that hold themselves. -/
def isFinite : Value → Bool
  | list items | tuple items | set items => areFinite items
  | mapping entries => areEntriesFinite entries
  | linked _ _ | link _ => false
  | _ => true

def areFinite : List Value → Bool
  | [] => true
  | v :: rest => isFinite v && areFinite rest

def areEntriesFinite : List (Value × Value) → Bool
  | [] => true
  | (key, value) :: rest => isFinite key && isFinite value && areEntriesFinite rest

end

def isNonNumber : Value → Bool
  | float x => x.isNaN
  | _ => false

/-- Whether two values are one key of a mapping. The non-number, which equals nothing, is one key.
-/
def isSameKey (a b : Value) : Bool := a.same b || (a.isNonNumber && b.isNonNumber)

/-! ## Views -/

/-- The items of a collection, the characters of a text, the numbers of bytes, or the keys of a
mapping. -/
def items? (v : Value) : Option (List Value) :=
  match v.opened with
  | list items | tuple items | set items => some items
  | text s => some ((Text.codePoints s).map fun n ↦ text (Text.ofCodePoints [n]))
  | bytes data => some (data.map fun b ↦ int b.toNat)
  | mapping entries => some (entries.map Prod.fst)
  | _ => none

/-- The values that count as present: not null, false, zero or empty. -/
def isTruthy (v : Value) : Bool :=
  match v.opened with
  | null => false
  | bool b => b
  | int n => n != 0
  | float x => x.toInt? != some 0
  | text s => !s.isEmpty
  | bytes data => !data.isEmpty
  | list items | tuple items | set items => !items.isEmpty
  | mapping entries => !entries.isEmpty
  | date _ | moment _ | linked _ _ | link _ => true

/-- The name of the kind of a value, as messages give it. -/
def kindName (v : Value) : String :=
  match v.opened with
  | null => "NoneType"
  | bool _ => "bool"
  | int _ => "int"
  | float _ => "float"
  | text _ => "str"
  | bytes _ => "bytes"
  | date _ => "date"
  | moment _ => "datetime"
  | list _ => "list"
  | tuple _ => "tuple"
  | set _ => "set"
  | mapping _ => "dict"
  | linked _ _ | link _ => "object"

def record (fields : List (String × Value)) : Value :=
  mapping (fields.map fun (key, value) ↦ (text key, value))

def texts (items : List String) : Value := list (items.map text)

end Value

abbrev Entries := List (Value × Value)

namespace Entries

/-- The value of the first entry under a text key. -/
def find? (entries : Entries) (key : String) : Option Value :=
  (List.find? (fun entry ↦ Value.same entry.1 (.text key)) entries).map Prod.snd

/-- The value under a text key, null when there is none. -/
def get (entries : Entries) (key : String) : Value := (find? entries key).getD .null

def has (entries : Entries) (key : String) : Bool := (find? entries key).isSome

/-- The entries with a value put under a key: in the place of the entry of that key, else last. -/
def put (key value : Value) : Entries → Entries
  | [] => [(key, value)]
  | entry :: rest =>
    if entry.1.isSameKey key then (entry.1, value) :: rest else entry :: put key value rest

end Entries

end GridPuzzle
