import GridPuzzle.Naming

/-!
# Variable kinds

A variable kind is a named layer of values over the grid, one for every cell: integers between two
bounds, or truth values. Its name is a kind name whose family is not reserved, so the family is
always usable as the name of the kind's array.
-/

namespace GridPuzzle

/-- The values a cell of a layer may take. -/
inductive Domain where
  | int (min max : Int) (min_le_max : min ≤ max)
  | bool
deriving DecidableEq

/-- A named layer of values, one for every cell. -/
structure VariableKind where
  name : String
  domain : Domain
  isKindName_name : isKindName name = true
  family_free : isReserved (family name) = false
deriving DecidableEq

namespace VariableKind

def array (kind : VariableKind) : String := family kind.name

/-- Whether a value lies in the kind's domain; a truth value is not a number here. -/
def accepts (kind : VariableKind) (value : Value) : Bool :=
  match kind.domain, value with
  | .bool, .bool _ => true
  | .int min max _, .int n => min ≤ n && n ≤ max
  | _, _ => false

def readDomain (name : String) (type min max : Value) : Except Error Domain :=
  match type with
  | .text "int" =>
    match min, max with
    | .int lower, .int upper =>
      if h : lower ≤ upper then .ok (.int lower upper h)
      else .error (.kindEmptyRange name lower upper)
    | _, _ => .error (.kindBounds name)
  | .text "bool" =>
    match min, max with
    | .null, .null => .ok .bool
    | _, _ => .error (.kindBoolBounds name)
  | _ => .error (.kindType type)

def read (name type min max : Value) : Except Error VariableKind :=
  match name with
  | .text s =>
    if hname : isKindName s = true then
      if hfree : isReserved (family s) = false then
        (readDomain s type min max).map fun domain ↦ ⟨s, domain, hname, hfree⟩
      else .error (.kindReserved s (family s))
    else .error (.kindName name)
  | _ => .error (.kindName name)

end VariableKind

end GridPuzzle
