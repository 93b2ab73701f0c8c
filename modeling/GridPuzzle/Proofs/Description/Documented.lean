import GridPuzzle.Proofs.Description.Wording

/-!
# Keys that are not documented

The mappings within a description have documented keys: a grid, the settings of a variable kind, a
constraint, a group and a clue. Only the keys of the description itself are checked. A key within a
part that is not documented is passed over, so that a description with such keys is read as if they
were not there.
-/

namespace GridPuzzle

open Fallible

/-! ## Keys of mappings -/

namespace Entries

def only (keys : List String) (entries : Entries) : Entries :=
  entries.filter fun entry ↦ keys.any fun key ↦ entry.1.same (.text key)

def change (key : String) (f : Value → Value) (entries : Entries) : Entries :=
  entries.map fun entry ↦ (entry.1, if entry.1.same (.text key) then f entry.2 else entry.2)

variable {keys : List String} {key other : String} {entries : Entries} {f : Value → Value}

theorem find?_only (h : key ∈ keys) : find? (only keys entries) key = find? entries key := by
  unfold find? only
  rw [List.find?_filter]
  congr 2
  funext entry
  by_cases hsame : entry.1.same (.text key) = true
  · simpa [hsame] using ⟨key, h, hsame⟩
  · simp [hsame]

theorem get_only (h : key ∈ keys) : get (only keys entries) key = get entries key := by
  rw [get, get, find?_only h]

theorem has_only (h : key ∈ keys) : has (only keys entries) key = has entries key := by
  rw [has, has, find?_only h]

theorem fst_change : (change key f entries).map Prod.fst = entries.map Prod.fst := by
  simp [change, Function.comp_def]

theorem find?_change_self : find? (change key f entries) key = (find? entries key).map f := by
  unfold find? change
  rw [List.find?_map, Function.comp_def]
  cases hfind : List.find? (fun entry ↦ entry.1.same (.text key)) entries with
  | none => simp
  | some entry =>
    have hsame : entry.1.same (.text key) = true := by simpa using List.find?_some hfind
    simp [hsame]

theorem find?_change_of_ne (h : other ≠ key) :
    find? (change key f entries) other = find? entries other := by
  unfold find? change
  rw [List.find?_map, Function.comp_def]
  cases hfind : List.find? (fun entry ↦ entry.1.same (.text other)) entries with
  | none => simp
  | some entry =>
    have hkey : entry.1 = .text other :=
      Value.same_text_iff.1 (by simpa using List.find?_some hfind)
    simp [hkey, h]

theorem get_change_self (hf : f .null = .null) :
    get (change key f entries) key = f (get entries key) := by
  rw [get, find?_change_self, get]
  cases find? entries key with
  | none => exact hf.symm
  | some v => rfl

theorem get_change_of_ne (h : other ≠ key) :
    get (change key f entries) other = get entries other := by
  rw [get, find?_change_of_ne h, get]

theorem has_change : has (change key f entries) other = has entries other := by
  by_cases h : other = key
  · subst h
    simp [has, find?_change_self]
  · rw [has, find?_change_of_ne h, has]

end Entries

namespace Value

/-- A mapping with its entries changed; another value is left as it is. -/
def mapEntries (f : Entries → Entries) (v : Value) : Value :=
  match v.entries? with
  | some entries => .mapping (f entries)
  | none => v

/-- A list with its items changed; another value is left as it is. -/
def mapItems (f : Value → Value) (v : Value) : Value :=
  match v.list? with
  | some items => .list (items.map f)
  | none => v

variable {v : Value} {f : Entries → Entries} {g : Value → Value}

theorem entries?_mapEntries : (v.mapEntries f).entries? = v.entries?.map f := by
  unfold mapEntries
  cases h : v.entries? with
  | some entries => rfl
  | none => simpa using h

end Value

theorem Group.agrees_read {keys : List String} (hcells : "cells" ∈ keys) (hvalue : "value" ∈ keys)
    (given : Value) :
    Agrees (Group.read (given.mapEntries (Entries.only keys))) (Group.read given) := by
  cases hentries : given.entries? with
  | none => exact .of_eq (by rw [Value.mapEntries, hentries])
  | some entries =>
    have hdocumented : (given.mapEntries (Entries.only keys)).entries? =
        some (Entries.only keys entries) := by rw [Value.entries?_mapEntries, hentries]; rfl
    unfold Group.read
    rw [hentries, hdocumented]
    dsimp only
    rw [Entries.find?_only hcells, Entries.get_only hvalue]
    cases Entries.find? entries "cells" with
    | none => exact .error _ _
    | some cells => exact .rfl

namespace Description

variable {place : String} {v : Value}

theorem entriesOf_mapEntries {f : Entries → Entries} :
    entriesOf place (v.mapEntries f) = (entriesOf place v).map f := by
  unfold entriesOf
  rw [Value.entries?_mapEntries]
  cases v.entries? <;> rfl

theorem itemsOf_mapItems {f : Value → Value} :
    itemsOf place (v.mapItems f) = (itemsOf place v).map (List.map f) := by
  cases hitems : v.list? with
  | none =>
    have hsame : v.mapItems f = v := by rw [Value.mapItems, hitems]
    rw [hsame]
    unfold itemsOf
    split
    · rfl
    · rw [hitems]
      rfl
  | some items =>
    have hlist : itemsOf place v = .ok items := by
      unfold itemsOf
      split
      · cases hitems
      · rw [hitems]
    rw [hlist, Value.mapItems, hitems]
    rfl

/-! ## Documented keys -/

def gridKeys : List String := ["rows", "cols", "boxes", "regions"]

def settingKeys : List String := ["type", "min", "max"]

def constraintKeys : List String := ["rule", "groups"]

def groupKeys : List String := ["cells", "value"]

/-- A value whose keys, if it is a mapping, are among given ones. -/
def HasKeys (keys : List String) (v : Value) : Prop :=
  ∀ entries, v.entries? = some entries →
    ∀ given ∈ entries.map Prod.fst, ∃ key ∈ keys, given = .text key

def documentedGrid (v : Value) : Value := v.mapEntries (Entries.only gridKeys)

def documentedKinds (v : Value) : Value :=
  v.mapEntries fun entries ↦ entries.map fun entry ↦
    (entry.1, entry.2.mapEntries (Entries.only settingKeys))

def documentedGroup (v : Value) : Value := v.mapEntries (Entries.only groupKeys)

def documentedConstraint (v : Value) : Value :=
  v.mapEntries fun entries ↦
    Entries.change "groups" (·.mapItems documentedGroup) (Entries.only constraintKeys entries)

def documentedClue (v : Value) : Value := v.mapEntries (Entries.only clueKeys)

def documentedEntries (entries : Entries) : Entries :=
  Entries.change "grid" documentedGrid <| Entries.change "variables" documentedKinds <|
    Entries.change "constraints" (·.mapItems documentedConstraint) <|
      Entries.change "clues" (·.mapItems documentedClue) entries

/-- A description without the keys within its parts that are not documented. -/
def documented (v : Value) : Value := v.mapEntries documentedEntries

theorem readGrid_documented (v : Value) : readGrid (documentedGrid v) = readGrid v := by
  unfold readGrid documentedGrid
  rw [entriesOf_mapEntries]
  cases entriesOf "grid" v with
  | error e => rfl
  | ok entries =>
    have hget (key : String) (h : key ∈ gridKeys) :
        Entries.get (Entries.only gridKeys entries) key = Entries.get entries key :=
      Entries.get_only h
    change (Except.ok (Entries.only gridKeys entries) >>= _) = (Except.ok entries >>= _)
    rw [ok_bind, ok_bind, hget "rows" (by decide), hget "cols" (by decide),
      hget "regions" (by decide), Entries.find?_only (by decide)]

/-- The settings of a kind that are read from a mapping, which may be empty. -/
theorem settings_of_entries {α : Type} {entries : Entries} (h : v.entries? = some entries)
    (place : String) (f : Entries → Except Error α) :
    (if v.isTruthy = true then entriesOf place v >>= f else pure [] >>= f) = f entries := by
  have hopened : v.opened = .mapping entries := by
    unfold Value.entries? at h
    split at h
    next heq => rw [heq, Option.some.inj h]
    next => cases h
  have htruthy : v.isTruthy = !entries.isEmpty := by rw [Value.isTruthy, hopened]
  cases entries with
  | nil =>
    rw [htruthy]
    rfl
  | cons entry entries =>
    rw [htruthy, entriesOf_eq_ok.2 h]
    rfl

theorem readKind_documented (name settings : Value) :
    readKind name (settings.mapEntries (Entries.only settingKeys)) = readKind name settings := by
  cases hentries : settings.entries? with
  | none => rw [Value.mapEntries, hentries]
  | some entries =>
    have hdocumented : (settings.mapEntries (Entries.only settingKeys)).entries? =
        some (Entries.only settingKeys entries) := by
      rw [Value.entries?_mapEntries, hentries]
      rfl
    have hget (key : String) (h : key ∈ settingKeys) :
        Entries.get (Entries.only settingKeys entries) key = Entries.get entries key :=
      Entries.get_only h
    unfold readKind
    dsimp only
    simp only [settings_of_entries hentries, settings_of_entries hdocumented]
    rw [hget "min" (by decide), hget "max" (by decide), Entries.find?_only (by decide)]

theorem addKinds_of_ne {puzzle : Puzzle} {given : Value} (h : given ≠ .null) :
    addKinds puzzle given = (readKinds given >>= puzzle.setKinds) := by
  cases given <;> first | exact absurd rfl h | rfl

theorem addKinds_documented (puzzle : Puzzle) (given : Value) :
    addKinds puzzle (documentedKinds given) = addKinds puzzle given := by
  cases hentries : given.entries? with
  | none => rw [documentedKinds, Value.mapEntries, hentries]
  | some entries =>
    have hgiven : given ≠ .null := by
      rintro rfl
      cases hentries
    have hdocumented : documentedKinds given = .mapping (entries.map fun entry ↦
        (entry.1, entry.2.mapEntries (Entries.only settingKeys))) := by
      rw [documentedKinds, Value.mapEntries, hentries]
    have hread : readKinds (documentedKinds given) = readKinds given := by
      unfold readKinds
      rw [entriesOf_eq_ok.2 hentries, hdocumented]
      change (List.mapM _ _ : Except Error _) = List.mapM _ _
      rw [List.mapM_map]
      simp only [Function.comp_def, readKind_documented]
    rw [addKinds_of_ne hgiven, addKinds_of_ne (by simp [hdocumented]), hread]

theorem addClue_documented (puzzle : Puzzle) (item : Value × Nat) :
    addClue puzzle (documentedClue item.1, item.2) = addClue puzzle item := by
  unfold addClue documentedClue
  dsimp only
  rw [entriesOf_mapEntries]
  cases entriesOf (numbered "clues" item.2) item.1 with
  | error e => rfl
  | ok entries =>
    have hget (key : String) (h : key ∈ clueKeys) :
        Entries.get (Entries.only clueKeys entries) key = Entries.get entries key :=
      Entries.get_only h
    have hmissing : (clueKeys.filter fun key ↦ !Entries.has (Entries.only clueKeys entries) key) =
        clueKeys.filter fun key ↦ !Entries.has entries key :=
      List.filter_congr fun key hkey ↦ by rw [Entries.has_only hkey]
    change (Except.ok (Entries.only clueKeys entries) >>= _) = (Except.ok entries >>= _)
    rw [ok_bind, ok_bind, hmissing, hget "row" (by decide), hget "col" (by decide),
      hget "variable" (by decide), hget "value" (by decide)]

variable {catalog : Option Catalog}

theorem agrees_placeRule (puzzle : Puzzle) (rule : Value) (groups : List Value) :
    Agrees (puzzle.placeRule catalog rule (.list (groups.map documentedGroup)))
      (puzzle.placeRule catalog rule (.list groups)) := by
  have hread : Agrees (Placement.read rule (.list (groups.map documentedGroup)))
      (Placement.read rule (.list groups)) := by
    have hsequence (items : List Value) :
        readSequence "Instance groups" (.list items) = .ok items := rfl
    unfold Placement.read
    split
    next id =>
      simp only [hsequence, ok_bind]
      split
      · exact .rfl
      · exact (Agrees.mapM_map (Group.agrees_read (by decide) (by decide))).bind fun _ ↦ .rfl
    next => exact .rfl
  exact Agrees.rfl.bind fun _ ↦ hread.bind fun _ ↦ .rfl

theorem agrees_addConstraint (puzzle : Puzzle) (item : Value × Nat) :
    Agrees (addConstraint catalog puzzle (documentedConstraint item.1, item.2))
      (addConstraint catalog puzzle item) := by
  unfold addConstraint documentedConstraint
  dsimp only
  rw [entriesOf_mapEntries]
  cases entriesOf (numbered "constraints" item.2) item.1 with
  | error e => exact .rfl
  | ok entries =>
    change Agrees (Except.ok _ >>= _) (Except.ok entries >>= _)
    rw [ok_bind, ok_bind, Entries.get_change_of_ne (by decide), Entries.get_only (by decide),
      Entries.get_change_self rfl, Entries.get_only (by decide), itemsOf_mapItems]
    refine Agrees.rfl.bind fun id ↦ ?_
    cases itemsOf (numbered "constraints" item.2 ++ ".groups") (Entries.get entries "groups") with
    | error e => exact .rfl
    | ok groups => exact (agrees_placeRule puzzle (.text id) groups).bind fun _ ↦ .rfl

theorem checkKeys_change {key : String} {f : Value → Value} {entries : Entries} :
    checkKeys (Entries.change key f entries) = checkKeys entries := by
  rw [checkKeys_eq, checkKeys_eq, unknownKeys, Entries.fst_change, Entries.has_change, unknownKeys]

/-- A step for every item of a list, in which the items are changed. -/
theorem agrees_foldlM_zipIdx {f g : Puzzle → Value × Nat → Except Error Puzzle} {d : Value → Value}
    (h : ∀ puzzle item, Agrees (f puzzle (d item.1, item.2)) (g puzzle item)) (items : List Value)
    (puzzle : Puzzle) :
    Agrees ((items.map d).zipIdx.foldlM f puzzle) (items.zipIdx.foldlM g puzzle) := by
  rw [List.zipIdx_map]
  exact .foldlM_map h puzzle

theorem agrees_items {given : Value} {f g : List Value → Except Error Puzzle} {d : Value → Value}
    (h : ∀ items, Agrees (f (items.map d)) (g items)) :
    Agrees (itemsOf place (given.mapItems d) >>= f) (itemsOf place given >>= g) := by
  rw [itemsOf_mapItems]
  cases itemsOf place given with
  | error e => exact .rfl
  | ok items => exact h items

theorem checkKeys_documented (entries : Entries) :
    checkKeys (documentedEntries entries) = checkKeys entries := by
  simp only [documentedEntries, checkKeys_change]

/-- What the parts of a description without undocumented keys are. -/
theorem get_documented (entries : Entries) :
    Entries.get (documentedEntries entries) "grid" = documentedGrid (Entries.get entries "grid") ∧
    Entries.get (documentedEntries entries) "variables" =
      documentedKinds (Entries.get entries "variables") ∧
    Entries.get (documentedEntries entries) "rules" = Entries.get entries "rules" ∧
    Entries.get (documentedEntries entries) "constraints" =
      (Entries.get entries "constraints").mapItems documentedConstraint ∧
    Entries.get (documentedEntries entries) "clues" =
      (Entries.get entries "clues").mapItems documentedClue := by
  have hgrid : documentedGrid .null = .null := rfl
  have hkinds : documentedKinds .null = .null := rfl
  have hitems (f : Value → Value) : Value.mapItems f .null = .null := rfl
  simp [documentedEntries, Entries.get_change_self, Entries.get_change_of_ne, hgrid, hkinds, hitems]

/-- Keys within the parts of a description that are not documented are not looked at. -/
theorem agrees_documented (description : Value) :
    Agrees (toPuzzle catalog (documented description)) (toPuzzle catalog description) := by
  unfold toPuzzle documented
  rw [entriesOf_mapEntries]
  cases entriesOf "puzzle" description with
  | error e => exact .rfl
  | ok entries =>
    obtain ⟨hgrid, hkinds, hrules, hconstraints, hclues⟩ := get_documented entries
    change Agrees (Except.ok (documentedEntries entries) >>= _) (Except.ok entries >>= _)
    rw [ok_bind, ok_bind, checkKeys_documented, hgrid, hkinds, hrules, hconstraints, hclues,
      readGrid_documented]
    refine Agrees.rfl.bind fun _ ↦ Agrees.rfl.bind fun grid ↦ Agrees.rfl.bind fun puzzle ↦ ?_
    rw [addKinds_documented]
    refine Agrees.rfl.bind fun _ ↦ Agrees.rfl.bind fun _ ↦ Agrees.rfl.bind fun puzzle ↦ ?_
    refine agrees_items fun constraints ↦ ?_
    refine (agrees_foldlM_zipIdx agrees_addConstraint constraints puzzle).bind fun puzzle ↦ ?_
    exact agrees_items fun clues ↦
      agrees_foldlM_zipIdx (fun puzzle item ↦ .of_eq (addClue_documented puzzle item)) clues puzzle

/-! ## Descriptions with documented keys only -/

def part (key : String) (v : Value) : Value := Entries.get (v.entries?.getD []) key

/-- A description in which no mapping has a key that is not documented. -/
structure IsDocumented (description : Value) : Prop where
  whole : HasKeys knownKeys description
  grid : HasKeys gridKeys (part "grid" description)
  settings : ∀ kind ∈ (part "variables" description).entries?.getD [], HasKeys settingKeys kind.2
  constraints : ∀ item ∈ (part "constraints" description).list?.getD [],
    HasKeys constraintKeys item
  groups : ∀ item ∈ (part "constraints" description).list?.getD [],
    ∀ group ∈ (part "groups" item).list?.getD [], HasKeys groupKeys group
  clues : ∀ item ∈ (part "clues" description).list?.getD [], HasKeys clueKeys item

theorem hasKeys_mapEntries {keys : List String} {f : Entries → Entries}
    (h : ∀ entries, ∀ given ∈ (f entries).map Prod.fst, ∃ key ∈ keys, given = .text key)
    (v : Value) : HasKeys keys (v.mapEntries f) := by
  intro entries hentries
  rw [Value.entries?_mapEntries] at hentries
  obtain ⟨found, _, rfl⟩ := Option.map_eq_some_iff.1 hentries
  exact h found

theorem mem_only {keys : List String} {entries : Entries} {given : Value}
    (h : given ∈ (Entries.only keys entries).map Prod.fst) : ∃ key ∈ keys, given = .text key := by
  obtain ⟨entry, hentry, rfl⟩ := List.mem_map.1 h
  obtain ⟨key, hkey, hsame⟩ := List.any_eq_true.1 (List.mem_filter.1 hentry).2
  exact ⟨key, hkey, Value.same_text_iff.1 hsame⟩

theorem hasKeys_only (keys : List String) (v : Value) :
    HasKeys keys (v.mapEntries (Entries.only keys)) := hasKeys_mapEntries (fun _ _ ↦ mem_only) v

theorem hasKeys_documentedConstraint (v : Value) :
    HasKeys constraintKeys (documentedConstraint v) := by
  refine hasKeys_mapEntries (fun entries given hgiven ↦ ?_) v
  rw [Entries.fst_change] at hgiven
  exact mem_only hgiven

theorem fst_documentedEntries (entries : Entries) :
    (documentedEntries entries).map Prod.fst = entries.map Prod.fst := by
  simp only [documentedEntries, Entries.fst_change]

theorem hasKeys_documented {keys : List String} {description : Value}
    (h : HasKeys keys description) : HasKeys keys (documented description) := by
  intro entries hentries
  rw [documented, Value.entries?_mapEntries] at hentries
  obtain ⟨found, hfound, rfl⟩ := Option.map_eq_some_iff.1 hentries
  rw [fst_documentedEntries]
  exact h found hfound

theorem entries?_getD_mapEntries {f : Entries → Entries} (hf : f [] = []) (v : Value) :
    (v.mapEntries f).entries?.getD [] = f (v.entries?.getD []) := by
  rw [Value.entries?_mapEntries]
  cases v.entries? with
  | none => exact hf.symm
  | some entries => rfl

theorem list?_getD_mapItems (f : Value → Value) (v : Value) :
    (v.mapItems f).list?.getD [] = (v.list?.getD []).map f := by
  cases hitems : v.list? with
  | none => rw [Value.mapItems, hitems]; simp [hitems]
  | some items => rw [Value.mapItems, hitems]; rfl

theorem part_documented (key : String) (description : Value) :
    part key (documented description) =
      Entries.get (documentedEntries (description.entries?.getD [])) key := by
  rw [part, documented, entries?_getD_mapEntries rfl]

theorem part_documentedConstraint (item : Value) :
    part "groups" (documentedConstraint item) = (part "groups" item).mapItems documentedGroup := by
  rw [part, documentedConstraint, entries?_getD_mapEntries rfl, Entries.get_change_self rfl,
    Entries.get_only (by decide), part]

/-- What is left of a description is documented, if its own keys are known. -/
theorem isDocumented_documented {description : Value} (h : HasKeys knownKeys description) :
    IsDocumented (documented description) := by
  obtain ⟨hgrid, hkinds, -, hconstraints, hclues⟩ :=
    get_documented (description.entries?.getD [])
  refine ⟨hasKeys_documented h, ?_, ?_, ?_, ?_, ?_⟩
  · rw [part_documented, hgrid]
    exact hasKeys_only gridKeys _
  · rw [part_documented, hkinds, documentedKinds, entries?_getD_mapEntries rfl]
    intro kind hkind
    obtain ⟨entry, _, rfl⟩ := List.mem_map.1 hkind
    exact hasKeys_only settingKeys _
  · rw [part_documented, hconstraints, list?_getD_mapItems]
    intro item hitem
    obtain ⟨given, _, rfl⟩ := List.mem_map.1 hitem
    exact hasKeys_documentedConstraint given
  · rw [part_documented, hconstraints, list?_getD_mapItems]
    intro item hitem group hgroup
    obtain ⟨given, _, rfl⟩ := List.mem_map.1 hitem
    rw [part_documentedConstraint, list?_getD_mapItems] at hgroup
    obtain ⟨raw, _, rfl⟩ := List.mem_map.1 hgroup
    exact hasKeys_only groupKeys raw
  · rw [part_documented, hclues, list?_getD_mapItems]
    intro item hitem
    obtain ⟨given, _, rfl⟩ := List.mem_map.1 hitem
    exact hasKeys_only clueKeys given

theorem hasKeys_iff {description : Value} : HasKeys knownKeys description ↔
    ∀ entries, description.entries? = some entries → unknownKeys entries = [] := by
  refine forall₂_congr fun entries _ ↦ ?_
  rw [unknownKeys, List.filter_eq_nil_iff]
  refine forall₂_congr fun key _ ↦ ?_
  simp only [Bool.not_eq_true', Bool.not_eq_false, List.any_eq_true, Value.same_text_iff]

/-- A description with an unknown key is refused before anything in it is read. -/
theorem toPuzzle_of_unknownKeys {description : Value} {entries : Entries}
    (hentries : description.entries? = some entries) (h : unknownKeys entries ≠ []) :
    toPuzzle catalog description = .error (match Value.sortKeys? (unknownKeys entries) with
      | some keys => .unknownKeys keys (knownKeys.map .text)
      | none => .wrongType) := by
  have hsome : (unknownKeys entries).isEmpty = false := by simpa using h
  rw [toPuzzle, entriesOf_eq_ok.2 hentries, ok_bind, checkKeys_eq, hsome]
  cases Value.sortKeys? (unknownKeys entries) <;> rfl

/-- Only the keys of a description itself are checked. A description is accepted just if these are
known and what is left of it without the undocumented keys of its parts is accepted, and both
describe the same puzzle. -/
theorem toPuzzle_undocumentedKeys (catalog : Option Catalog) (description : Value) :
    (∀ puzzle, toPuzzle catalog description = .ok puzzle ↔
      HasKeys knownKeys description ∧ toPuzzle catalog (documented description) = .ok puzzle) ∧
    (HasKeys knownKeys description → IsDocumented (documented description)) ∧
    ∀ entries, description.entries? = some entries → unknownKeys entries ≠ [] →
      toPuzzle catalog description = .error (match Value.sortKeys? (unknownKeys entries) with
        | some keys => .unknownKeys keys (knownKeys.map .text)
        | none => .wrongType) := by
  refine ⟨fun puzzle ↦ ?_, isDocumented_documented, fun entries ↦ toPuzzle_of_unknownKeys⟩
  rw [agrees_documented description puzzle]
  refine ⟨fun h ↦ ⟨hasKeys_iff.2 fun entries hentries ↦ ?_, h⟩, And.right⟩
  by_contra hunknown
  rw [toPuzzle_of_unknownKeys hentries hunknown] at h
  cases h

/-- A row of two cells with a cage on both. -/
def cageRow (cage : Value) : Value :=
  .record [("grid", .record [("rows", .int 1), ("cols", .int 2)]),
    ("constraints", .list [.record [("rule", .text "killer-cage"), ("groups", .list [cage])]])]

def cageCells : Value := .list [.list [.int 0, .int 0], .list [.int 0, .int 1]]

/-- The row with the total of the cage under a misspelled key. -/
def misspelledTotal : Value := cageRow (.record [("cells", cageCells), ("vlaue", .int 3)])

theorem documented_misspelledTotal :
    documented misspelledTotal = cageRow (.record [("cells", cageCells)]) := by
  simp [documented, misspelledTotal, cageRow, documentedEntries, Value.mapEntries, Value.record,
    Value.entries?, Value.opened, Entries.change, documentedGrid, Entries.only, gridKeys,
    Value.mapItems, Value.list?, documentedConstraint, constraintKeys, documentedGroup, groupKeys]

theorem hasKeys_cageRow (cage : Value) : HasKeys knownKeys (cageRow cage) := by
  intro entries hentries given hgiven
  obtain rfl := Option.some.inj hentries
  simp only [List.map_cons, List.map_nil, List.mem_cons, List.not_mem_nil, or_false] at hgiven
  obtain rfl | rfl := hgiven
  · exact ⟨"grid", by decide, rfl⟩
  · exact ⟨"constraints", by decide, rfl⟩

/-- The row when nothing but its cells is said of the cage. -/
theorem toPuzzle_cageRow : toPuzzle none (cageRow (.record [("cells", cageCells)])) = .ok
    { grid := some ⟨1, 2, none, by decide, by decide⟩
      placements := [⟨"killer-cage", [⟨[⟨0, 0⟩, ⟨0, 1⟩], .absent⟩]⟩] } := by
  have hkeys : checkKeys [(.text "grid", .record [("rows", .int 1), ("cols", .int 2)]),
      (.text "constraints", .list [.record [("rule", .text "killer-cage"),
        ("groups", .list [.record [("cells", cageCells)]])]])] = .ok () := by
    simp [checkKeys, knownKeys, Entries.has, Entries.find?]
  have hgrid : readGrid (.record [("rows", .int 1), ("cols", .int 2)]) =
      .ok ⟨1, 2, none, by decide, by decide⟩ := by
    simp [readGrid, entriesOf, Value.record, Value.entries?, Value.opened, Entries.get,
      Entries.find?]
    rfl
  have hlist (place : String) (items : List Value) : itemsOf place (.list items) = .ok items := rfl
  have hnull (place : String) : itemsOf place .null = .ok [] := rfl
  have hplacement : Placement.read (.text "killer-cage")
      (.list [.record [("cells", cageCells)]]) =
        .ok ⟨"killer-cage", [⟨[⟨0, 0⟩, ⟨0, 1⟩], .absent⟩]⟩ := by
    simp [Placement.read, readSequence, Group.read, Value.items?, Value.record, Value.entries?,
      Value.opened, Entries.get, Entries.find?]
    rfl
  have hconstraint : addConstraint none { grid := some ⟨1, 2, none, by decide, by decide⟩ }
      (.record [("rule", .text "killer-cage"),
        ("groups", .list [.record [("cells", cageCells)]])], 0) = .ok
      { grid := some ⟨1, 2, none, by decide, by decide⟩
        placements := [⟨"killer-cage", [⟨[⟨0, 0⟩, ⟨0, 1⟩], .absent⟩]⟩] } := by
    have hrule : readRuleId (.constraintRule 0) (.text "killer-cage") = .ok "killer-cage" := rfl
    simp only [addConstraint, entriesOf, Value.record, Value.entries?, Value.opened, Entries.get,
      Entries.find?, List.map_cons, List.map_nil, List.find?_cons, Value.text_same_text,
      Puzzle.placeRule, Puzzle.checkRule, ok_bind]
    rw [show Value.mapping [(.text "cells", cageCells)] = .record [("cells", cageCells)] from rfl]
    simp [hrule, hlist, hplacement]
    rfl
  unfold toPuzzle
  change (checkKeys [_, _] >>= _) = _
  rw [hkeys, ok_bind]
  have hset : Puzzle.empty.setGrid ⟨1, 2, none, by decide, by decide⟩ =
      .ok { grid := some ⟨1, 2, none, by decide, by decide⟩ } := rfl
  simp [Entries.get, Entries.find?, hgrid, hlist, hnull, hset, hconstraint, addKinds]

theorem toPuzzle_misspelledTotal : ¬IsDocumented misspelledTotal ∧
    toPuzzle none misspelledTotal = .ok
      { grid := some ⟨1, 2, none, by decide, by decide⟩
        placements := [⟨"killer-cage", [⟨[⟨0, 0⟩, ⟨0, 1⟩], .absent⟩]⟩] } := by
  constructor
  · intro h
    have hitems : (part "constraints" misspelledTotal).list?.getD [] =
        [.record [("rule", .text "killer-cage"),
          ("groups", .list [.record [("cells", cageCells), ("vlaue", .int 3)]])]] := by
      simp [part, misspelledTotal, cageRow, Value.record, Value.entries?, Value.opened,
        Entries.get, Entries.find?, Value.list?]
    have hgroups := h.groups _ (by rw [hitems]; exact List.mem_singleton_self _)
      (.record [("cells", cageCells), ("vlaue", .int 3)])
      (by simp [part, Value.record, Value.entries?, Value.opened, Entries.get, Entries.find?,
        Value.list?])
    obtain ⟨key, hkey, heq⟩ := hgroups _ rfl (.text "vlaue") (by simp)
    obtain rfl := Value.text.inj heq
    exact absurd hkey (by decide)
  · refine ((toPuzzle_undocumentedKeys none misspelledTotal).1 _).2 ⟨hasKeys_cageRow _, ?_⟩
    rw [documented_misspelledTotal]
    exact toPuzzle_cageRow

end Description

end GridPuzzle
