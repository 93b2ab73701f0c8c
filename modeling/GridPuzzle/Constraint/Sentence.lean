import GridPuzzle.Constraint.Item
import GridPuzzle.Text.Word
import Mathlib

/-!
# Sentences and what they mean

The part of the modeling language that generators write, read back from text. A sentence ends with a
semicolon; it demands something or defines a variable by a sum. What a text says depends on what the
elements of arrays, the variables and the predicates in it stand for. The elements of the array of
digits are the digits of the cells, with rows and columns counted from one.
-/

namespace GridPuzzle

/-!
## Words and signs

A text of the modeling language as a sequence of words and signs. Letters, digits and underscores
that stand side by side form a word, and any other character is a sign. Spaces and line feeds stand
between words and signs, and a comment is passed over up to the end of its line.
-/

/-- A part of a text that says something. -/
inductive Token where
  | word (s : List Char)
  | sign (c : Char)
deriving DecidableEq

namespace Token

/-- The tokens with a character of a word in front of them, which belongs to the word behind it if
it adjoins one. -/
def extend (c : Char) (adjoins : Bool) : List Token → List Token
  | word s :: tokens => if adjoins then word (c :: s) :: tokens else word [c] :: word s :: tokens
  | tokens => word [c] :: tokens

/-- The tokens of a text that may start within a comment. -/
def allFrom (inComment : Bool) : List Char → List Token
  | [] => []
  | c :: rest =>
    if inComment then allFrom (c != '\n') rest
    else if c == '%' then allFrom true rest
    else if c == ' ' || c == '\n' then allFrom false rest
    else if Text.isIdentifierChar c then
      extend c (rest.head?.any Text.isIdentifierChar) (allFrom false rest)
    else sign c :: allFrom false rest

def all (s : List Char) : List Token := allFrom false s

end Token

/-!
## The meaning of generated constraints

What the items of a generated model say about an assignment of integers to the cells, given the
value of the shared total. Notes say nothing.
-/

/-- Integers for the cells of a grid. -/
abbrev Assignment := Cell → Int

/-- The number that digits denote, most significant first, in base ten. -/
def positional (digits : List Int) : Int := digits.foldl (fun acc digit ↦ acc * 10 + digit) 0

def Term.eval (value : Assignment) (total : Int) : Term → Int
  | sum cells | segmentSum cells => (cells.map value).sum
  | numeral cells => positional (cells.map value)
  | constant n => n
  | sharedTotal => total

/-- Whether two digits are in a relation: neighbours, or one the double of the other. -/
def DotRelation.Holds (a b : Int) : DotRelation → Prop
  | consecutive => a - b = 1 ∨ b - a = 1
  | double => a = 2 * b ∨ b = 2 * a

/-- What an item demands of an assignment. -/
def Item.Holds (value : Assignment) (total : Int) : Item → Prop
  | note _ | always => True
  | allDifferent cells => (cells.map value).Pairwise (· ≠ ·)
  | equal left right => left.eval value total = right.eval value total
  | less a b => value a < value b
  | farApart a b => 5 ≤ value a - value b ∨ 5 ≤ value b - value a
  | dotted relation a b => relation.Holds (value a) (value b)
  | defineTotal term => total = term.eval value total

def Items.Hold (value : Assignment) (total : Int) (items : List Item) : Prop :=
  ∀ item ∈ items, item.Holds value total

/-! ## Sentences -/

/-- What has a value: an element of an array, a variable by its name, or a numeral. -/
inductive Atom where
  | element (array : List Char) (row col : Nat)
  | name (s : List Char)
  | literal (n : Nat)
deriving DecidableEq

/-- A multiple of an atom. -/
structure Summand where
  weight : Int
  atom : Atom
deriving DecidableEq

/-- What a sentence demands. -/
inductive Formula where
  | always
  | equal (left right : List Summand)
  | less (left right : List Summand)
  | apart (left right : Atom) (distance : Nat)
  | allDifferent (atoms : List Atom)
  | related (predicate : List Char) (left right : Atom)
deriving DecidableEq

inductive Sentence where
  | constraint (formula : Formula)
  | define (name : List Char) (sum : List Summand)
deriving DecidableEq

/-! ## Reading -/

open Token

def Atom.element? : List Token → Option (Atom × List Token)
  | word array :: sign '[' :: word row :: sign ',' :: word col :: sign ']' :: rest => do
    return (.element array (← Text.digits? row) (← Text.digits? col), rest)
  | _ => none

def Atom.read? : List Token → Option Atom
  | [word s] => some <| match Text.digits? s with
    | some n => .literal n
    | none => .name s
  | tokens =>
    match Atom.element? tokens with
    | some (atom, []) => some atom
    | _ => none

def Summand.read? : List Token → Option Summand
  | sign '-' :: tokens => (Atom.read? tokens).map (⟨-1, ·⟩)
  | word s :: sign '*' :: tokens => do return ⟨← Text.digits? s, ← Atom.read? tokens⟩
  | tokens => (Atom.read? tokens).map (⟨1, ·⟩)

/-- What stands in round brackets, if the whole text does. -/
def unbracketed : List Token → List Token
  | sign '(' :: tokens =>
    if tokens.getLast? = some (sign ')') then tokens.dropLast else sign '(' :: tokens
  | tokens => tokens

/-- The summands of a sum. -/
def sum? (tokens : List Token) : Option (List Summand) :=
  ((unbracketed tokens).splitOn (sign '+')).mapM Summand.read?

def elements? : List Token → Option (List Atom × List Token)
  | word array :: sign '[' :: word row :: sign ',' :: word col :: sign ']' :: sign ',' :: rest => do
    let (atoms, rest) ← elements? rest
    return (.element array (← Text.digits? row) (← Text.digits? col) :: atoms, rest)
  | tokens => (Atom.element? tokens).map fun (atom, rest) ↦ ([atom], rest)

/-- The formula of a function or predicate that is applied to what stands behind it. -/
def application? (name : List Char) (tokens : List Token) : Option Formula :=
  if name = "all_different".toList then
    match tokens with
    | sign '[' :: tokens =>
      match elements? tokens with
      | some (atoms, [sign ']', sign ')']) => some (.allDifferent atoms)
      | _ => none
    | _ => none
  else if name = "abs".toList then
    match Atom.element? tokens with
    | some (left, sign '-' :: tokens) =>
      match Atom.element? tokens with
      | some (right, [sign ')', sign '>', sign '=', word s]) =>
        (Text.digits? s).map (.apart left right)
      | _ => none
    | _ => none
  else
    match elements? tokens with
    | some ([left, right], [sign ')']) => some (.related name left right)
    | _ => none

/-- The formula of two sums with a sign between them. -/
def relation? (tokens : List Token) : Option Formula :=
  match tokens.splitOn (sign '='), tokens.splitOn (sign '<') with
  | [left, right], _ => do return .equal (← sum? left) (← sum? right)
  | _, [left, right] => do return .less (← sum? left) (← sum? right)
  | _, _ => none

def Formula.read? : List Token → Option Formula
  | word name :: sign '(' :: tokens => application? name tokens
  | tokens => if tokens = [word "true".toList] then some .always else relation? tokens

/-- The definition of a variable, behind its keyword. -/
def definition? : List Token → Option Sentence
  | word type :: sign ':' :: word name :: sign '=' :: tokens =>
    if type = "int".toList then (sum? tokens).map (.define name) else none
  | _ => none

def Sentence.read? : List Token → Option Sentence
  | word keyword :: tokens =>
    if keyword = "constraint".toList then (Formula.read? tokens).map .constraint
    else if keyword = "var".toList then definition? tokens
    else none
  | _ => none

/-- The sentences of a text, if it consists of sentences. -/
def sentences? (text : String) : Option (List Sentence) :=
  match ((Token.all text.toList).splitOn (sign ';')).reverse with
  | [] :: pieces => pieces.reverse.mapM Sentence.read?
  | _ => none

/-! ## Meaning -/

/-- What the elements of arrays, the variables and the predicates of a text stand for. -/
structure Interpretation where
  element : List Char → Nat → Nat → Option Int
  name : List Char → Option Int
  related : List Char → Int → Int → Prop

/-- The elements of the array of digits are the digits of the cells, with rows and columns counted
from one, and the only variable is the shared total. -/
def Interpretation.ofDigits (value : Assignment) (total : Int) : Interpretation where
  element array row col :=
    if array = digitKind.toList ∧ 1 ≤ row ∧ 1 ≤ col then some (value ⟨row - 1, col - 1⟩) else none
  name s := if s = sharedTotal.toList then some total else none
  related predicate a b := ∃ relation : DotRelation, relation.predicate.toList = predicate ∧
    relation.Holds a b

variable (meaning : Interpretation)

def Atom.eval? : Atom → Option Int
  | element array row col => meaning.element array row col
  | name s => meaning.name s
  | literal n => some n

def Summand.eval? (summand : Summand) : Option Int :=
  (summand.atom.eval? meaning).map (summand.weight * ·)

def sumOf? (summands : List Summand) : Option Int :=
  (summands.mapM (Summand.eval? meaning)).map List.sum

/-- A formula holds if all that is in it has a value and the values are as it says. -/
def Formula.Holds : Formula → Prop
  | always => True
  | equal left right => ∃ a ∈ sumOf? meaning left, ∃ b ∈ sumOf? meaning right, a = b
  | less left right => ∃ a ∈ sumOf? meaning left, ∃ b ∈ sumOf? meaning right, a < b
  | apart left right distance =>
    ∃ a ∈ left.eval? meaning, ∃ b ∈ right.eval? meaning, distance ≤ |a - b|
  | allDifferent atoms => ∃ values ∈ atoms.mapM (Atom.eval? meaning), values.Pairwise (· ≠ ·)
  | related predicate left right =>
    ∃ a ∈ left.eval? meaning, ∃ b ∈ right.eval? meaning, meaning.related predicate a b

/-- A definition holds if the variable has the value of the sum. -/
def Sentence.Holds : Sentence → Prop
  | constraint formula => formula.Holds meaning
  | define name sum => ∃ a ∈ meaning.name name, ∃ b ∈ sumOf? meaning sum, a = b

/-- A text consists of sentences that all hold. -/
def Says (text : String) : Prop :=
  ∃ sentences, sentences? text = some sentences ∧ ∀ sentence ∈ sentences, sentence.Holds meaning

end GridPuzzle
