import GridPuzzle.Text.Line
import GridPuzzle.Text.Quoted
import GridPuzzle.Value.Basic

/-!
# Values as text

A value has a literal form, in which texts are quoted, and a shown form, which differs from it only
in that a text, a date or a moment stands for itself. Messages use the literal form for what was
given and the shown form for names. Where a collection is met again within itself, three points
stand for it. A value that holds an integer too long to be written has no form at all.
-/

namespace GridPuzzle.Value

/-- Pieces between brackets with a comma and a space between each two. -/
def bracketed (opening closing : String) (pieces : List String) : String :=
  opening ++ Text.join ", " pieces ++ closing

mutual

/-- The literal form, given the forms of links and of linked collections. A sequence in round
brackets with one item keeps its comma. -/
def form (onLink : Nat → String) (onLinked : List Value → Nat → String) : Value → String
  | null => "None"
  | bool true => "True"
  | bool false => "False"
  | int n => Text.intText n
  | float x => x.text
  | text s => Text.quoted s
  | bytes data => Text.quotedBytes data
  | date d => d.literal
  | moment t => t.literal
  | list items => bracketed "[" "]" (forms onLink onLinked items)
  | tuple items =>
    bracketed "(" (if items.length == 1 then ",)" else ")") (forms onLink onLinked items)
  | set [] => "set()"
  | set (first :: rest) => bracketed "\x7b" "\x7d" (forms onLink onLinked (first :: rest))
  | mapping entries => bracketed "\x7b" "\x7d" (entryForms onLink onLinked entries)
  | linked collections start => onLinked collections start
  | link target => onLink target

def forms (onLink : Nat → String) (onLinked : List Value → Nat → String) :
    List Value → List String
  | [] => []
  | v :: rest => form onLink onLinked v :: forms onLink onLinked rest

def entryForms (onLink : Nat → String) (onLinked : List Value → Nat → String) :
    List (Value × Value) → List String
  | [] => []
  | (key, value) :: rest =>
    (form onLink onLinked key ++ ": " ++ form onLink onLinked value)
      :: entryForms onLink onLinked rest

end

/-- What stands for a collection that is met within itself. -/
def ellipsis : Value → String
  | mapping _ => "\x7b...\x7d"
  | _ => "[...]"

/-- The literal form of one of several linked collections, met within the collections of `path`. -/
def linkedLiteral (collections : List Value) (path : List Nat) (start : Nat) :
    (fuel : Nat) → String
  | 0 => ""
  | fuel + 1 =>
    match collections[start]? with
    | none => ""
    | some collection =>
      if path.contains start then ellipsis collection
      else
        form (fun target ↦ linkedLiteral collections (start :: path) target fuel) (fun _ _ ↦ "")
          collection

def literal (v : Value) : String :=
  form (fun _ ↦ "") (fun collections start ↦
    linkedLiteral collections [] start (collections.length + 1)) v

/-- The shown form: a text, a date or a moment stands for itself. -/
def shown : Value → String
  | text s => s
  | date d => d.shown
  | moment t => t.shown
  | v => v.literal

def nameList (names : List String) : String := bracketed "[" "]" (names.map Text.quoted)

mutual

def isWritable : Value → Bool
  | int n => Text.isWritable n
  | list items | tuple items | set items | linked items _ => areWritable items
  | mapping entries => areEntriesWritable entries
  | _ => true

def areWritable : List Value → Bool
  | [] => true
  | v :: rest => isWritable v && areWritable rest

def areEntriesWritable : List (Value × Value) → Bool
  | [] => true
  | (key, value) :: rest => isWritable key && isWritable value && areEntriesWritable rest

end

end GridPuzzle.Value
