import GridPuzzle.Catalog.Standard
import GridPuzzle.Proofs.Compile.Outcome
import GridPuzzle.Proofs.Description.Wording
import GridPuzzle.Service

/-!
# Answers to compile requests

A request to compile a description with text keys is answered with the model or refused, and the
status of a refusal tells a failing generator from every other fault of the description. There are
two ways in which a request is not answered. A number or a grid may be too large, be it for the
model or for the detail of a refusal. And a clue may name its variable kind by a value that cannot
be looked up, which nothing finds before the kind is looked up.
-/

namespace GridPuzzle

open Fallible Description

/-- A fault under which a description is refused, and which no generator has. -/
def Error.IsRefused (e : Error) : Prop :=
  e.category ∈ [Category.configuration, .notFound, .unemittable, .assembly]

theorem Error.IsRejection.isRefused {e : Error} (h : e.IsRejection) : e.IsRefused := by
  obtain h | h := h <;> simp [IsRefused, h]

/-! ## Faults of validation -/

namespace Selection

variable {catalog : Catalog} {puzzle : Puzzle} {grid : Grid}

theorem isRejection_of_resolve {reference : Reference} {scope : Scope} {id : String} {e : Error}
    (h : resolve catalog reference scope (.text id) = .error e) : e.IsRejection := by
  obtain ⟨_, rfl⟩ | ⟨rule, actual, rfl⟩ := resolve_text_eq_error h
  · exact .inr rfl
  · exact .inl rfl

/-- A fault of a clue is that of its kind, its place or its value, unless its kind cannot be looked
up. -/
theorem isRejection_of_checkClue {clue : Clue} {e : Error}
    (h : checkClue puzzle grid clue = .error e) :
    e.IsRejection ∨ e = .wrongType ∧ clue.kind.isKey = false := by
  obtain hkey | rfl | ⟨_, rfl⟩ | ⟨kind, rfl⟩ := checkClue_eq_error h
  · exact .inr hkey
  · exact .inl (.inl rfl)
  · exact .inl (.inl rfl)
  · exact .inl (.inl rfl)

theorem isRefused_of_checkRule {kinds : List VariableKind} {rule : Rule} {e : Error}
    (h : checkRule catalog kinds rule = .error e) : e.IsRefused := by
  obtain ⟨_, rfl⟩ | rfl | ⟨dependency, _, h⟩ | ⟨kind, name, rfl⟩ := checkRule_eq_error h
  · simp [Error.IsRefused, Error.category]
  · simp [Error.IsRefused, Error.category]
  · exact (isRejection_of_resolve h).isRefused
  · simp [Error.IsRefused, Error.category]

/-- Validation refuses a puzzle whose selected rules are named by texts, unless the kind of a clue
cannot be looked up. -/
theorem isRefused_of_ofPuzzle (htexts : ∀ id ∈ puzzle.selected, ∃ s, id = .text s) {e : Error}
    (h : ofPuzzle catalog puzzle = .error e) :
    e.IsRefused ∨ e = .wrongType ∧ ∃ clue ∈ puzzle.clues, clue.kind.isKey = false := by
  obtain rfl | ⟨grid, _, h⟩ := ofPuzzle_eq_error h
  · exact .inl (by simp [Error.IsRefused, Error.category])
  obtain h | ⟨clue, hclue, h⟩ | ⟨id, hid, h⟩ | ⟨placement, _, position, h⟩ | ⟨rule, _, _, h⟩ := h
  · obtain ⟨_, rfl⟩ := checkArrays_eq_error h
    exact .inl (by simp [Error.IsRefused, Error.category])
  · obtain h | ⟨rfl, hkey⟩ := isRejection_of_checkClue h
    · exact .inl h.isRefused
    · exact .inr ⟨rfl, clue, hclue, hkey⟩
  · obtain ⟨s, rfl⟩ := htexts id hid
    exact .inl (isRejection_of_resolve h).isRefused
  · obtain h | ⟨cell, _, _, rfl⟩ := resolvePlacement_eq_error h
    · exact .inl (isRejection_of_resolve h).isRefused
    · exact .inl (by simp [Error.IsRefused, Error.category])
  · exact .inl (isRefused_of_checkRule h)

/-- A clue whose kind cannot be looked up stops validation if nothing before it does. -/
theorem ofPuzzle_of_not_isKey (hgrid : puzzle.grid = some grid)
    (harrays : (puzzle.kinds.map VariableKind.array).Nodup) {before after : List Clue} {clue : Clue}
    (hclues : puzzle.clues = before ++ clue :: after)
    (hbefore : ∀ earlier ∈ before, checkClue puzzle grid earlier = .ok ())
    (hkey : clue.kind.isKey = false) : ofPuzzle catalog puzzle = .error .wrongType := by
  have hclue : checkClue puzzle grid clue = .error .wrongType := by
    have hkind : puzzle.kind? clue.kind = .error .wrongType := by simp [Puzzle.kind?, hkey]
    rw [checkClue, hkind]
    rfl
  unfold ofPuzzle
  rw [hgrid]
  dsimp only
  rw [checkArrays_eq_ok.2 harrays, ok_bind, hclues,
    forM_append_cons hbefore hclue, error_bind]

end Selection

/-! ## Answers -/

namespace Service

variable {catalog : Catalog} {fields : List (String × Value)}

/-- A description with text keys has no model for a fault under which it is refused, for a failing
generator, for a number or a row that is too long, or for a clue whose kind cannot be looked up. -/
theorem model_eq_error {e : Error} (h : model catalog (.record fields) = .error e) :
    e.IsRefused ∨ e.category = .generatorFailure ∨ e.IsLimit ∨
      e = .wrongType ∧ ∃ puzzle, Description.toPuzzle (some catalog) (.record fields) = .ok puzzle ∧
        ∃ clue ∈ puzzle.clues, clue.kind.isKey = false := by
  obtain h | ⟨puzzle, hpuzzle, h⟩ := bind_eq_error.1 h
  · obtain hrejection | rfl := Description.faultsIn_toPuzzle_record _ fields e h
    · exact .inl hrejection.isRefused
    · exact .inr (.inr (.inl (.inl rfl)))
  obtain h | ⟨_, _, h⟩ := bind_eq_error.1 h
  · obtain ⟨steps, rfl⟩ := Description.isAuthored_toPuzzle hpuzzle
    have htexts := (Puzzle.rulesKnown_ofSession catalog steps).selected
    obtain hinvalid | ⟨⟨grid, selection⟩, haccepted, _⟩ := bind_eq_error.1 h
    · obtain hrefused | ⟨rfl, hclue⟩ := Selection.isRefused_of_ofPuzzle
        (fun id hid ↦ ⟨_, (htexts id hid).choose_spec.choose_spec.1⟩) hinvalid
      · exact .inl hrefused
      · exact .inr (.inr (.inr ⟨rfl, _, hpuzzle, hclue⟩))
    · obtain ⟨calls, hcalls⟩ := exists_generatorCalls (Selection.ofPuzzle_eq_ok haccepted)
      obtain ⟨_, rfl⟩ | rfl | ⟨call, _, fault, _, rfl⟩ | ⟨_, _, hassembly, _⟩ :=
        compile_eq_error haccepted hcalls h
      · exact .inr (.inr (.inl (.inr rfl)))
      · exact .inr (.inr (.inl (.inl rfl)))
      · exact .inr (.inl rfl)
      · exact .inl (by simp [Error.IsRefused, hassembly])
  · simp at h

theorem compile_of_model_eq_error {description : Value} {e : Error}
    (h : model catalog description = .error e) : compile catalog description =
      match refusalStatus? e.settled.category with
      | some status => .ok (.refusal status e.settled.message)
      | none => .error e.settled := by
  cases hstatus : refusalStatus? e.settled.category with
  | none => simp [compile, h, hstatus]
  | some status => simp [compile, h, hstatus]

theorem refusalStatus?_of_isRefused {e : Error} (h : e.IsRefused) :
    refusalStatus? e.category = some 422 := by
  simp only [Error.IsRefused, List.mem_cons, List.not_mem_nil, or_false] at h
  obtain h | h | h | h := h <;> rw [h] <;> rfl

/-- The answer to a description with text keys is its model; or a refusal that words what is wrong,
with one status for a failing generator and another one for every other fault. There is no answer
only where a number or a row is too long, or where a clue names its kind by a value that cannot
be looked up; and such a clue is never answered, unless a clue before it is refused. -/
theorem compile_answer (catalog : Catalog) (fields : List (String × Value)) :
    ((∃ text, model catalog (.record fields) = .ok text ∧
        compile catalog (.record fields) = .ok (.content (.record [("model", .text text)]))) ∨
      ∃ e, model catalog (.record fields) = .error e ∧
        ((e.isWordable = true ∧ e.category = .generatorFailure ∧
            compile catalog (.record fields) = .ok (.refusal 500 e.message)) ∨
          (e.isWordable = true ∧ e.IsRefused ∧
            compile catalog (.record fields) = .ok (.refusal 422 e.message)) ∨
          (e.isWordable = false ∧ compile catalog (.record fields) = .error .wrongValue) ∨
          (e.IsLimit ∧ compile catalog (.record fields) = .error e) ∨
          e = .wrongType ∧ compile catalog (.record fields) = .error .wrongType ∧
            ∃ puzzle, Description.toPuzzle (some catalog) (.record fields) = .ok puzzle ∧
              ∃ clue ∈ puzzle.clues, clue.kind.isKey = false)) ∧
    ∀ puzzle grid before clue after,
      Description.toPuzzle (some catalog) (.record fields) = .ok puzzle →
      puzzle.grid = some grid → puzzle.clues = before ++ clue :: after →
      (∀ earlier ∈ before, Selection.checkClue puzzle grid earlier = .ok ()) →
      clue.kind.isKey = false → compile catalog (.record fields) = .error .wrongType := by
  constructor
  · cases hmodel : model catalog (.record fields) with
    | ok text => exact .inl ⟨text, rfl, by rw [compile, hmodel]⟩
    | error e =>
      refine .inr ⟨e, rfl, ?_⟩
      have hcompile := compile_of_model_eq_error hmodel
      cases hwordable : e.isWordable with
      | false =>
        rw [Error.settled_of_not_isWordable hwordable] at hcompile
        exact .inr (.inr (.inl ⟨rfl, hcompile⟩))
      | true =>
        rw [Error.settled_of_isWordable hwordable] at hcompile
        obtain hrefused | hgenerator | hlimit | ⟨rfl, hclue⟩ := model_eq_error hmodel
        · rw [refusalStatus?_of_isRefused hrefused] at hcompile
          exact .inr (.inl ⟨rfl, hrefused, hcompile⟩)
        · rw [hgenerator] at hcompile
          exact .inl ⟨rfl, hgenerator, hcompile⟩
        · refine .inr (.inr (.inr (.inl ⟨hlimit, ?_⟩)))
          obtain rfl | rfl | rfl := hlimit <;> exact hcompile
        · exact .inr (.inr (.inr (.inr ⟨rfl, hcompile, hclue⟩)))
  · intro puzzle grid before clue after hpuzzle hgrid hclues hbefore hkey
    obtain ⟨steps, hsession⟩ := Description.isAuthored_toPuzzle hpuzzle
    have harrays : (puzzle.kinds.map VariableKind.array).Nodup := by
      rw [hsession]
      exact (Puzzle.consistent_ofSession _ steps).arrays
    have hinvalid := @Selection.ofPuzzle_of_not_isKey catalog puzzle grid hgrid harrays before after
      clue hclues hbefore hkey
    have hmodel : model catalog (.record fields) = .error .wrongType := by
      rw [model, hpuzzle, ok_bind, GridPuzzle.compile, hinvalid]
      rfl
    exact compile_of_model_eq_error hmodel

/-- One cell and one clue for it, which names its variable kind by a list. -/
def listedKind : List (String × Value) :=
  [("grid", .record [("rows", .int 1), ("cols", .int 1)]),
    ("variables", .record [("numbers", .record [("min", .int 1), ("max", .int 4)])]),
    ("clues", .list [.record
      [("row", .int 0), ("col", .int 0), ("variable", .list []), ("value", .int 1)]])]

/-- Nothing is found wrong with the clue while the description is read. -/
theorem toPuzzle_listedKind : Description.toPuzzle (some .standard) (.record listedKind) = .ok
    { grid := some ⟨1, 1, none, Nat.one_pos, Nat.one_pos⟩
      kinds := [⟨"numbers", .int 1 4 (by decide), by decide, by decide⟩]
      clues := [⟨⟨0, 0⟩, .list [], .int 1⟩] } := by
  have hentries : entriesOf "puzzle" (.record listedKind) =
      .ok (listedKind.map fun field ↦ (Value.text field.1, field.2)) := rfl
  have hkeys : checkKeys (listedKind.map fun field ↦ (.text field.1, field.2)) = .ok () := by
    simp [checkKeys, listedKind, knownKeys, Entries.has, Entries.find?]
  have hget (key : String) (value : Value)
      (h : (listedKind.find? (·.1 == key)).map Prod.snd = some value) :
      Entries.get (listedKind.map fun field ↦ (.text field.1, field.2)) key = value := by
    rw [Entries.get_record, h]
    rfl
  have hmissing (key : String) (h : (listedKind.find? (·.1 == key)).map Prod.snd = none) :
      Entries.get (listedKind.map fun field ↦ (.text field.1, field.2)) key = .null := by
    rw [Entries.get_record, h]
    rfl
  have hgrid : readGrid (.record [("rows", .int 1), ("cols", .int 1)]) =
      .ok ⟨1, 1, none, Nat.one_pos, Nat.one_pos⟩ := by
    simp [readGrid, entriesOf, Value.record, Value.entries?, Value.opened, Entries.get,
      Entries.find?]
    rfl
  have hkinds (puzzle : Puzzle) : addKinds puzzle
      (.record [("numbers", .record [("min", .int 1), ("max", .int 4)])]) =
        puzzle.setKinds [⟨"numbers", .int 1 4 (by decide), by decide, by decide⟩] := by
    have hkind : VariableKind.read (.text "numbers") (.text "int") (.int 1) (.int 4) =
        .ok ⟨"numbers", .int 1 4 (by decide), by decide, by decide⟩ := rfl
    change (readKinds _ >>= _) = _
    simp [readKinds, readKind, entriesOf, Value.record, Value.entries?, Value.opened, Entries.get,
      Entries.find?, Value.isTruthy, Value.isWritable, hkind]
  have hclue (puzzle : Puzzle) : addClue puzzle (.record
      [("row", .int 0), ("col", .int 0), ("variable", .list []), ("value", .int 1)], 0) =
        puzzle.addClue ⟨⟨0, 0⟩, .list [], .int 1⟩ := by
    have hread : Clue.read (.int 0) (.int 0) (.list []) (.int 1) =
        .ok ⟨⟨0, 0⟩, .list [], .int 1⟩ := rfl
    simp [addClue, entriesOf, Value.record, Value.entries?, Value.opened, Entries.get,
      Entries.find?, Entries.has, clueKeys, hread]
  have hlist (place : String) (items : List Value) : itemsOf place (.list items) = .ok items := rfl
  unfold toPuzzle
  rw [hentries, ok_bind, hkeys, ok_bind, hget "grid" _ rfl, hgrid, ok_bind,
    hget "variables" _ rfl, hmissing "rules" rfl, hmissing "constraints" rfl, hget "clues" _ rfl]
  simp only [hkinds, hlist, ok_bind, List.zipIdx_cons, List.zipIdx_nil, List.foldlM_cons,
    List.foldlM_nil, hclue]
  rfl

theorem compile_listedKind_unanswered :
    compile .standard (.record listedKind) = .error .wrongType :=
  (compile_answer .standard listedKind).2 _ _ [] _ [] toPuzzle_listedKind rfl rfl (by simp) rfl

end Service

end GridPuzzle
