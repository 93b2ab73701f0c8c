import GridPuzzle.Catalog.Basic
import GridPuzzle.Compile.Assembly
import GridPuzzle.Description

/-!
# Answers to requests

What a service over a catalog answers: a sign of life, the categories, a listing of the rules that
pass some filters, and the model of a description. A description that does not compile is refused
with a status, which tells a failing generator from all other faults of the description.
-/

namespace GridPuzzle.Service

/-- An answer with content, or a refusal with the detail of what was wrong. -/
inductive Response where
  | content (body : Value)
  | refusal (status : Nat) (detail : String)
deriving Inhabited

def ping : Response := .content (.record [("status", .text "ok")])

def categories (catalog : Catalog) : Response := .content (.texts catalog.categories)

/-! ## The listing of rules -/

/-- What the rules of a listing have in common; null stands for no demand. -/
structure RuleFilter where
  scope : Value := .null
  category : Value := .null
  kinds : Value := .null
deriving Inhabited

namespace RuleFilter

def passesScope (filter : RuleFilter) (rule : Rule) : Bool :=
  match filter.scope with
  | .null => true
  | scope => scope.same (.text rule.scope.name)

def passesCategory (filter : RuleFilter) (rule : Rule) : Bool :=
  match filter.category with
  | .null => true
  | category => rule.categories.any fun name ↦ category.same (.text name)

/-- The rules that are compatible with the kinds of the filter. The kinds are looked at only where
there is a rule to compare them with. -/
def keepCompatible (filter : RuleFilter) (rules : List Rule) : Except Error (List Rule) :=
  match filter.kinds, rules with
  | .null, _ => .ok rules
  | _, [] => .ok []
  | kinds, _ => do
    let present ← Catalog.readKinds (← readItems kinds)
    return rules.filter (·.isCompatible present)

end RuleFilter

def rules (catalog : Catalog) (filter : RuleFilter) : Except Error (List Rule) :=
  filter.keepCompatible
    (catalog.rules.filter fun rule ↦ filter.passesScope rule && filter.passesCategory rule)

def summary (rule : Rule) : Value :=
  .record
    [("id", .text rule.id),
      ("name", .text rule.name),
      ("type", .text rule.scope.name),
      ("description", .text rule.description),
      ("requiredVariables", .texts rule.requiredKinds),
      ("categories", .texts rule.categories),
      ("capabilities", .texts rule.capabilities),
      ("render", rule.render)]

def listRules (catalog : Catalog) (filter : RuleFilter) : Except Error Response := do
  return .content (.list ((← rules catalog filter).map summary))

/-! ## Compiling a description -/

/-- The status under which a category of errors is refused, if it is a fault of the description. -/
def refusalStatus? : Category → Option Nat
  | .generatorFailure => some 500
  | .configuration | .notFound | .unemittable | .assembly => some 422
  | .value | .misuse _ => none

def model (catalog : Catalog) (description : Value) : Except Error String := do
  let puzzle ← Description.toPuzzle catalog description
  return (← GridPuzzle.compile catalog puzzle).text

def compile (catalog : Catalog) (description : Value) : Except Error Response :=
  match model catalog description with
  | .ok text => .ok (.content (.record [("model", .text text)]))
  | .error cause =>
    let fault := cause.settled
    match refusalStatus? fault.category with
    | some status => .ok (.refusal status fault.message)
    | none => .error fault

end GridPuzzle.Service
