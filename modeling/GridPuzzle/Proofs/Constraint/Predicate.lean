import GridPuzzle.Catalog.Standard
import GridPuzzle.Constraint.Predicate
import GridPuzzle.Proofs.Constraint.Meaning

/-!
# The predicates of the dots

The fragments of the two dots declare the predicates that stand for the relations of neighbouring
digits, and these hold just where the relations do. Elements and variables are not in them.
-/

namespace GridPuzzle

open Standard

/-! ## Reading the fragments -/

/-- What the fragment of the white dot declares: digits at a distance of one. -/
def Predicate.consecutive : Predicate where
  name := DotRelation.consecutive.predicate.toList
  parameters := [['a'], ['b']]
  conditions := [.distance (.name ['a']) (.name ['b']) 1]

/-- What the fragment of the black dot declares: one of two digits is twice the other. -/
def Predicate.double : Predicate where
  name := DotRelation.double.predicate.toList
  parameters := [['a'], ['b']]
  conditions := [.formula (.equal [⟨1, .name ['a']⟩] [⟨2, .name ['b']⟩]),
    .formula (.equal [⟨1, .name ['b']⟩] [⟨2, .name ['a']⟩])]

theorem predicates?_whiteDot : whiteDot.fragment.bind predicates? = some [.consecutive] := by
  decide

theorem predicates?_blackDot : blackDot.fragment.bind predicates? = some [.double] := by
  decide

/-! ## Meaning -/

def Interpretation.ofPair (m n : Int) : Interpretation := .ofNames [(['a'], m), (['b'], n)]

variable {m n : Int}

theorem eval?_left : (Atom.name ['a']).eval? (.ofPair m n) = some m := rfl

theorem eval?_right : (Atom.name ['b']).eval? (.ofPair m n) = some n := rfl

theorem sumOf?_single {meaning : Interpretation} {atom : Atom} {k : Int}
    (h : atom.eval? meaning = some k) (weight : Int) :
    sumOf? meaning [⟨weight, atom⟩] = some (weight * k) := by
  have hsummand : Summand.eval? meaning ⟨weight, atom⟩ = some (weight * k) := by
    rw [Summand.eval?, h]
    rfl
  rw [sumOf?_cons hsummand (b := 0) rfl, Int.add_zero]

/-- Neighbours are digits at a distance of one. -/
theorem DotRelation.holds_consecutive : DotRelation.consecutive.Holds m n ↔ |m - n| = 1 := by
  rw [abs_eq (by decide), DotRelation.Holds]
  omega

theorem Predicate.holds_consecutive :
    Predicate.consecutive.Holds [m, n] ↔ DotRelation.consecutive.Holds m n := by
  calc
    Predicate.consecutive.Holds [m, n] ↔
        (Condition.distance (.name ['a']) (.name ['b']) 1).Holds (.ofPair m n) := by
      simp [Predicate.Holds, consecutive, Interpretation.ofPair]
    _ ↔ |m - n| = 1 := by
      simp [Condition.Holds, eval?_left, eval?_right]
    _ ↔ DotRelation.consecutive.Holds m n := DotRelation.holds_consecutive.symm

theorem Predicate.holds_double :
    Predicate.double.Holds [m, n] ↔ DotRelation.double.Holds m n := by
  calc
    Predicate.double.Holds [m, n] ↔
        (Formula.equal [⟨1, .name ['a']⟩] [⟨2, .name ['b']⟩]).Holds (.ofPair m n) ∨
          (Formula.equal [⟨1, .name ['b']⟩] [⟨2, .name ['a']⟩]).Holds (.ofPair m n) := by
      simp [Predicate.Holds, double, Condition.Holds, Interpretation.ofPair]
    _ ↔ m = 2 * n ∨ n = 2 * m := by
      simp [Formula.Holds, sumOf?_single eval?_left, sumOf?_single eval?_right, eq_comm]
    _ ↔ DotRelation.double.Holds m n := Iff.rfl

/-- What the fragments of the two dots make of the name of a predicate. -/
theorem Interpretation.related_ofRules {value : Assignment} {total : Int} {name : List Char} :
    (ofRules [whiteDot, blackDot] value total).related name m n ↔
      (ofDigits value total).related name m n := by
  calc
    (ofRules [whiteDot, blackDot] value total).related name m n ↔
        Predicate.consecutive.name = name ∧ Predicate.consecutive.Holds [m, n] ∨
          Predicate.double.name = name ∧ Predicate.double.Holds [m, n] := by
      simp [ofRules, predicates?_whiteDot, predicates?_blackDot]
    _ ↔ DotRelation.consecutive.predicate.toList = name ∧ DotRelation.consecutive.Holds m n ∨
        DotRelation.double.predicate.toList = name ∧ DotRelation.double.Holds m n := by
      rw [Predicate.holds_consecutive, Predicate.holds_double]
      rfl
    _ ↔ (ofDigits value total).related name m n := by
      refine ⟨fun h ↦ h.elim (fun h ↦ ⟨_, h⟩) fun h ↦ ⟨_, h⟩, ?_⟩
      rintro ⟨_ | _, h⟩
      · exact .inl h
      · exact .inr h

/-- With the predicates that the fragments of the two dots declare, elements, variables and
predicates stand for what the relations of the digits say. -/
theorem Interpretation.ofRules_dots (value : Assignment) (total : Int) :
    ofRules [whiteDot, blackDot] value total = ofDigits value total := by
  have hrelated : (ofRules [whiteDot, blackDot] value total).related =
      (ofDigits value total).related := by
    funext name m n
    exact propext related_ofRules
  calc
    ofRules [whiteDot, blackDot] value total =
        { ofDigits value total with
          related := (ofRules [whiteDot, blackDot] value total).related } := rfl
    _ = ofDigits value total := by rw [hrelated]

end GridPuzzle
