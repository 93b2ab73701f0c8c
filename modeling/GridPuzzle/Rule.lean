import GridPuzzle.Generator.Basic

/-!
# Rules

A rule has an id, a scope and what is shown of it, names the variable kinds it reads, and can be
emitted in two ways: by a fragment of constraint text and by a generator. A required variable kind
is met by a kind of the same name or of the same family.
-/

namespace GridPuzzle

structure Rule where
  id : String
  name : String
  scope : Scope
  description : String := ""
  requiredKinds : List String := []
  categories : List String := []
  /-- Constraint text: the whole rule, or what the placements of the rule share. -/
  fragment : Option String := none
  generator : Option Generator := none
  /-- A rule that means nothing on a grid without regions. -/
  requiresRegions : Bool := false
  /-- The placed rules whose placements the generator reads. -/
  consumes : List String := []
  /-- How the rule is drawn, passed on as it is. -/
  render : Value := .null
deriving Inhabited

namespace Rule

/-- The ways in which a rule can be emitted. -/
def capabilities (rule : Rule) : List String :=
  (if rule.fragment.isSome then ["fragment"] else [])
    ++ (if rule.generator.isSome then ["generator"] else [])

def isEmittable (rule : Rule) : Bool := !rule.capabilities.isEmpty

/-- The variable kind in which groups of the rule are written. -/
def primaryKind? (rule : Rule) : Option String := rule.requiredKinds.head?

/-- The required kinds that are met neither by name nor by family. -/
def missingKinds (rule : Rule) (present : List String) : List String :=
  rule.requiredKinds.filter fun required ↦
    !present.contains required && !(present.map family).contains (family required)

def isCompatible (rule : Rule) (present : List String) : Bool := (rule.missingKinds present).isEmpty

def text (rule : Rule) : String :=
  let typeName :=
    match rule.scope with
    | .wholeGrid => "GlobalRule"
    | .placed => "LocalRule"
  typeName ++ "(id=" ++ Error.inQuotes rule.id ++ ", capabilities="
    ++ (Value.tuple (rule.capabilities.map Value.text)).literal ++ ")"

end Rule

end GridPuzzle
