import GridPuzzle.Rule

/-!
# Catalogs of rules

A catalog holds rules under distinct ids, in the order in which they were registered. Queries list
rules by id in ascending order.
-/

namespace GridPuzzle

/-- Rules under distinct ids, in the order of registration. -/
structure Catalog where
  entries : List Rule
  distinct : (entries.map Rule.id).Nodup

/-- Names in ascending order of their code points. -/
def sortNames (names : List String) : List String := names.mergeSort Text.isAtMost

def sortedNames (names : List String) : List String := (sortNames names).eraseReps

namespace Catalog

def empty : Catalog := ⟨[], List.nodup_nil⟩

instance : Inhabited Catalog := ⟨empty⟩

/-- Adds a rule behind the others; its id must be new. -/
def register (catalog : Catalog) (rule : Rule) : Except Error Catalog :=
  if h : rule.id ∈ catalog.entries.map Rule.id then .error (.ruleIdTaken rule.id)
  else
    .ok
      { entries := catalog.entries ++ [rule]
        distinct := by
          have hne : ∀ r ∈ catalog.entries, ¬ r.id = rule.id := fun r hr heq ↦
            h (heq ▸ List.mem_map_of_mem hr)
          simpa [List.nodup_append, catalog.distinct] using hne }

def size (catalog : Catalog) : Nat := catalog.entries.length

def find? (catalog : Catalog) (id : String) : Option Rule :=
  catalog.entries.find? (·.id == id)

/-- The ids in ascending order. -/
def ids (catalog : Catalog) : List String := sortNames (catalog.entries.map Rule.id)

def rules (catalog : Catalog) : List Rule := catalog.ids.filterMap catalog.find?

def categories (catalog : Catalog) : List String :=
  sortedNames (catalog.entries.flatMap Rule.categories)

def get (catalog : Catalog) (id : Value) : Except Error Rule :=
  match id with
  | .text s =>
    match catalog.find? s with
    | some rule => .ok rule
    | none => .error (.unknownRule id catalog.ids)
  | _ => if id.isKey then .error (.unknownRule id catalog.ids) else .error .wrongType

def contains (catalog : Catalog) (id : Value) : Except Error Bool :=
  match id with
  | .text s => .ok (catalog.find? s).isSome
  | _ => if id.isKey then .ok false else .error .wrongType

def byScope (catalog : Catalog) (scope : Value) : List Rule :=
  catalog.rules.filter fun rule ↦ scope.same (.text rule.scope.name)

def byCategory (catalog : Catalog) (category : Value) : List Rule :=
  catalog.rules.filter fun rule ↦ rule.categories.any fun c ↦ category.same (.text c)

def compatible (catalog : Catalog) (present : List String) : List Rule :=
  catalog.rules.filter (·.isCompatible present)

def hasPlacedRule (catalog : Catalog) (id : String) : Bool :=
  (catalog.find? id).any fun rule ↦ rule.scope == .placed

/-- Every consumed rule is a placed rule of the catalog. -/
def checkDependencies (catalog : Catalog) : Except Error Unit :=
  catalog.entries.forM fun rule ↦
    match rule.consumes.find? (!catalog.hasPlacedRule ·) with
    | some dependency => .error (.unknownDependency rule.id dependency)
    | none => .ok ()

/-! ## Untyped queries -/

def readKinds (items : List Value) : Except Error (List String) :=
  items.mapM fun item ↦
    match item with
    | .text s => .ok s
    | _ => .error (.misuse .missingAttribute)

/-- The compatible rules for a sequence of kind names. The names are looked at only where there is a
rule to compare them with. -/
def compatibleWith (catalog : Catalog) (kinds : Value) : Except Error (List Rule) := do
  let items ← readItems kinds
  if catalog.entries.isEmpty then return []
  return catalog.compatible (← readKinds items)

def missingKinds (catalog : Catalog) (id kinds : Value) : Except Error (List String) := do
  let rule ← catalog.get id
  return rule.missingKinds (← readKinds (← readItems kinds))

end Catalog

end GridPuzzle
