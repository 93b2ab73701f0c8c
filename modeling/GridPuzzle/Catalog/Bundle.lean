import GridPuzzle.Catalog.Basic
import GridPuzzle.Generator.Library
import GridPuzzle.Yaml.Reader

/-!
# Loading a catalog

A catalog directory has a side for the rules of the whole grid and one for placed rules. Every rule
is a bundle, a directory that bears the rule's id and holds its metadata and maybe a fragment;
directories whose name starts with an underscore are scaffolds and are passed over, and so are plain
files. The capabilities that the metadata declare must be those that are there: the fragment's file
and a generator under the rule's id. The bundles of a side are loaded in the order of their names.
-/

namespace GridPuzzle

/-- A rule's directory. The metadata are what was read from their file, if there is one. -/
structure Bundle where
  name : String
  metadata : Option (Except Yaml.Fault Value) := none
  fragment : Option String := none
deriving Inhabited

structure CatalogTree where
  root : String
  wholeGrid : List Bundle := []
  placed : List Bundle := []

namespace Bundle

/-- The bundle of a directory with the texts of its files, if they are there. The line breaks of the
fragment are made uniform. -/
def ofFiles (name : String) (metadata fragment : Option String) : Bundle :=
  { name
    metadata := metadata.map Yaml.read
    fragment := fragment.map fun text ↦ String.ofList (Text.normalizeBreaks text.toList) }

/-- Scaffolds for authors are never loaded. -/
def isScaffold (bundle : Bundle) : Bool := bundle.name.toList.head? == some '_'

def path (root : String) (scope : Scope) (bundle : Bundle) : String :=
  root ++ "/" ++ scope.name ++ "/" ++ bundle.name

def metadataPath (root : String) (scope : Scope) (bundle : Bundle) : String :=
  bundle.path root scope ++ "/metadata.yaml"

def readMetadata (root : String) (scope : Scope) (bundle : Bundle) : Except Error Entries :=
  match bundle.metadata with
  | none => .error (.bundleWithoutMetadata (bundle.path root scope))
  | some (.error fault) => .error (fault.toError (bundle.metadataPath root scope))
  | some (.ok given) =>
    match given.entries? with
    | some entries => .ok entries
    | none => .error (.metadataNotMapping (bundle.metadataPath root scope))

/-- The texts under a key; a value that counts as absent stands for no text. -/
def readTexts (path key : String) (entries : Entries) : Except Error (List String) :=
  let given := Entries.get entries key
  let texts? : Option (List String) :=
    match given.list? with
    | some items => items.mapM Value.text?
    | none => if given.isTruthy then none else some []
  match texts? with
  | some texts => .ok texts
  | none => .error (.metadataList path key)

/-- The text under a key that has to hold more than white space. -/
def readName (path : String) (entries : Entries) : Except Error String :=
  match Entries.get entries "name" with
  | .text s => if Text.isBlankText s then .error (.metadataName path) else .ok s
  | _ => .error (.metadataName path)

/-- The shown form of a value, empty if the value counts as absent. -/
def readDescription (entries : Entries) : Except Error String :=
  let given := Entries.get entries "description"
  if !given.isTruthy then .ok ""
  else if given.isWritable then .ok given.shown
  else .error .wrongValue

def readRender (path : String) (entries : Entries) : Except Error Value :=
  let given := Entries.get entries "render"
  match given with
  | .null => .ok .null
  | _ => if given.entries?.isSome then .ok given else .error (.metadataRender path)

def knownCapabilities : List String := ["fragment", "generator"]

def present (bundle : Bundle) (generator : Option Generator) : List String :=
  (if bundle.fragment.isSome then ["fragment"] else [])
    ++ (if generator.isSome then ["generator"] else [])

/-- The declared capabilities are known, and they are those that are there. -/
def checkCapabilities (path : String) (bundle : Bundle) (generator : Option Generator)
    (entries : Entries) : Except Error Unit := do
  let declared := sortedNames (← readTexts path "capabilities" entries)
  let unknown := declared.filter (!knownCapabilities.contains ·)
  if !unknown.isEmpty then throw (.metadataCapabilities path unknown)
  let present := bundle.present generator
  if declared ≠ present then throw (.capabilityMismatch bundle.name declared present)

def toRule (root : String) (scope : Scope) (generators : GeneratorTable) (bundle : Bundle) :
    Except Error Rule := do
  let path := bundle.metadataPath root scope
  let entries ← bundle.readMetadata root scope
  let id := Entries.get entries "id"
  if !id.same (.text bundle.name) then throw (.metadataId path id bundle.name)
  let type := Entries.get entries "type"
  if !type.same (.text scope.name) then throw (.metadataType path type scope)
  let name ← readName path entries
  let generator := generators.lookup bundle.name
  checkCapabilities path bundle generator entries
  let render ← readRender path entries
  let description ← readDescription entries
  let requiredKinds ← readTexts path "requiredVariables" entries
  let categories ← readTexts path "categories" entries
  let consumes ← readTexts path "consumes" entries
  return {
    id := bundle.name
    name, scope, description, requiredKinds, categories, generator, consumes, render
    fragment := bundle.fragment
    requiresRegions := (Entries.get entries "requiresRegions").isTruthy }

end Bundle

namespace CatalogTree

/-- The bundles of a side that are loaded, in the order of their names. -/
def loaded (bundles : List Bundle) : List Bundle :=
  (bundles.filter (!·.isScaffold)).mergeSort fun a b ↦ Text.isAtMost a.name b.name

def loadSide (root : String) (generators : GeneratorTable) (scope : Scope) (catalog : Catalog)
    (bundles : List Bundle) : Except Error Catalog :=
  (loaded bundles).foldlM (fun catalog bundle ↦
    (bundle.toRule root scope generators).bind catalog.register) catalog

/-- The catalog of a directory: the rules of the whole grid, then the placed rules. -/
def load (generators : GeneratorTable) (tree : CatalogTree) : Except Error Catalog := do
  let catalog ← loadSide tree.root generators .wholeGrid .empty tree.wholeGrid
  let catalog ← loadSide tree.root generators .placed catalog tree.placed
  catalog.checkDependencies
  return catalog

/-- The catalog of a directory that may not be there. -/
def load? (generators : GeneratorTable) (root : String) : Option CatalogTree → Except Error Catalog
  | none => .error (.catalogMissing root)
  | some tree => load generators tree

end CatalogTree

end GridPuzzle
