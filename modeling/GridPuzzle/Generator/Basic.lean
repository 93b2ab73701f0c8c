import GridPuzzle.Constraint.Item
import GridPuzzle.Placement

/-!
# Generators

A generator writes the constraints of a rule from the groups it is placed on, all placements of the
puzzle and the grid. It may warn, and it may fail. The library's own generators produce a draft of
typed items, which is then written as text if all numbers in it can be written; any other function
of the type is a generator as well.
-/

namespace GridPuzzle

/-- A remark on a model that is valid and weaker than it looks. -/
inductive Warning where
  | regionsNeeded (rule : String)
  | totalIgnored (value : GroupValue)
deriving DecidableEq

def Warning.message : Warning → String
  | regionsNeeded rule =>
    "Rule " ++ Error.inQuotes rule ++ " needs regions but the grid has none; emitting a no-op"
  | totalIgnored value =>
    "Killer cage total " ++ value.toValue.literal
      ++ " is not an integer; only all-different is enforced"

structure Emission where
  text : String
  warnings : List Warning
deriving DecidableEq

/-- Why a generator gave no text: it raised an error of some kind, or gave something else. -/
inductive Fault where
  | raised (kind text : String)
  | notText (kindName : String)
deriving DecidableEq

namespace Fault

def reason : Fault → String
  | raised kind text => kind ++ ": " ++ text
  | notText kindName => "returned " ++ kindName ++ " instead of text"

/-- The most characters of a quoted text that a fault shows. -/
def maxShown : Nat := 200

/-- A text that looks like an integer and denotes none. The quoted text is cut at its end when it is
long, and then has no closing quote. -/
def unreadableInteger (s : String) : Fault :=
  .raised "ValueError"
    ("invalid literal for int() with base 10: "
      ++ String.ofList ((Text.quoted (Text.strip s)).toList.take maxShown))

/-- What is said of every integer that is too long. -/
def lengthLimit : String := "Exceeds the limit (4300 digits) for integer string conversion"

def limitRemedy : String := "; use sys.set_int_max_str_digits() to increase the limit"

/-- A text that denotes an integer with too many digits. -/
def tooManyDigits (digits : Nat) : Fault :=
  .raised "ValueError"
    (lengthLimit ++ ": value has " ++ Text.natText digits ++ " digits" ++ limitRemedy)

/-- An integer that has too many digits to be written. -/
def unwritable : Fault := .raised "ValueError" (lengthLimit ++ limitRemedy)

/-- The fault of reading an integer from a text. -/
def ofNumeral (s : String) : Text.NumeralFault → Fault
  | .unreadable => unreadableInteger s
  | .tooLong digits => tooManyDigits digits

/-- A cell that the region map does not reach. -/
def outsideRegionMap : Fault := .raised "IndexError" "tuple index out of range"

end Fault

/-- A function that writes the constraints of a rule. -/
abbrev Generator := List Group → List Placement → Grid → Except Fault Emission

/-- Items and warnings of a generator of the library. -/
structure Draft where
  items : List Item
  warnings : List Warning := []
deriving DecidableEq

namespace Draft

/-- The draft as text, if all numbers in it can be written. -/
def emission (draft : Draft) : Except Fault Emission :=
  if draft.items.all Item.isWritable then .ok ⟨Items.text draft.items, draft.warnings⟩
  else .error .unwritable

/-- A draft that demands nothing and says why. -/
def neutral (reason : String) : Draft := ⟨[.note reason, .always], []⟩

end Draft

/-- A generator that produces typed items. -/
abbrev Drafter := List Group → List Placement → Grid → Except Fault Draft

def Drafter.toGenerator (draft : Drafter) : Generator :=
  fun groups placements grid ↦ (draft groups placements grid).bind Draft.emission

/-- Each two neighbours of a sequence. -/
def neighbours (cells : List Cell) : List (Cell × Cell) := cells.zip cells.tail

end GridPuzzle
