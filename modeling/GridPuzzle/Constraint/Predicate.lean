import GridPuzzle.Constraint.Sentence
import GridPuzzle.Rule

/-!
# Predicates

The part of the modeling language in which fragments declare predicates, read back from text. A
predicate has integer parameters and holds of integers if one of its conditions does, where the
parameters stand for the integers. What the predicates of a text stand for can thus be taken from
the fragments of the rules in use.
-/

namespace GridPuzzle

/-- One of the conditions with `\/` between them: a formula, or the distance of two atoms. -/
inductive Condition where
  | formula (formula : Formula)
  | distance (left right : Atom) (n : Nat)
deriving DecidableEq

structure Predicate where
  name : List Char
  parameters : List (List Char)
  conditions : List Condition
deriving DecidableEq

/-! ## Reading -/

open Token

def Condition.read? : List Token → Option Condition
  | [word name, sign '(', left, sign '-', right, sign ')', sign '=', word n] =>
    if name = "abs".toList then do
      return .distance (← Atom.read? [left]) (← Atom.read? [right]) (← Text.digits? n)
    else none
  | tokens => (Formula.read? tokens).map .formula

/-- The texts between which `\/` stands. -/
def alternatives? (tokens : List Token) : Option (List (List Token)) :=
  match tokens.splitOn (sign '\\') with
  | [] => none
  | first :: others => do
    let others ← others.mapM fun
      | sign '/' :: tokens => some tokens
      | _ => none
    return first :: others

def parameter? : List Token → Option (List Char)
  | [word mode, word type, sign ':', word name] =>
    if mode = "var".toList ∧ type = "int".toList then some name else none
  | _ => none

def Predicate.read? : List Token → Option Predicate
  | word keyword :: word name :: sign '(' :: tokens =>
    match tokens.takeWhile (· ≠ sign ')'), tokens.dropWhile (· ≠ sign ')') with
    | parameters, sign ')' :: sign '=' :: body =>
      if keyword = "predicate".toList then do
        let parameters ← (parameters.splitOn (sign ',')).mapM parameter?
        let conditions ← (← alternatives? body).mapM Condition.read?
        return ⟨name, parameters, conditions⟩
      else none
    | _, _ => none
  | _ => none

/-- The predicates of a text, if it declares nothing else. -/
def predicates? (text : String) : Option (List Predicate) :=
  match ((Token.all text.toList).splitOn (sign ';')).reverse with
  | [] :: pieces => pieces.reverse.mapM Predicate.read?
  | _ => none

/-! ## Meaning -/

/-- Names stand for the integers beside them, and nothing else has a meaning. -/
def Interpretation.ofNames (names : List (List Char × Int)) : Interpretation where
  element _ _ _ := none
  name s := names.lookup s
  related _ _ _ := False

def Condition.Holds (meaning : Interpretation) : Condition → Prop
  | formula f => f.Holds meaning
  | distance left right n => ∃ a ∈ left.eval? meaning, ∃ b ∈ right.eval? meaning, |a - b| = n

/-- A predicate holds of as many integers as it has parameters, if one of its conditions does. -/
def Predicate.Holds (predicate : Predicate) (arguments : List Int) : Prop :=
  predicate.parameters.length = arguments.length ∧ ∃ condition ∈ predicate.conditions,
    condition.Holds (.ofNames (predicate.parameters.zip arguments))

/-- The meaning of elements and variables is that of the digits and the shared total, and predicates
are those that the fragments of the rules declare. -/
def Interpretation.ofRules (rules : List Rule) (value : Assignment) (total : Int) :
    Interpretation where
  element := (ofDigits value total).element
  name := (ofDigits value total).name
  related name a b := ∃ rule ∈ rules, ∃ predicates ∈ rule.fragment.bind predicates?,
    ∃ predicate ∈ predicates, predicate.name = name ∧ predicate.Holds [a, b]

end GridPuzzle
