import GridPuzzle.Proofs.Description
import GridPuzzle.Proofs.Reporting

/-!
# Wording the faults of descriptions

Where a description cannot be read, the fault is one of the description. There are two exceptions:
unknown keys that cannot be sorted, and the name of a variable kind that cannot be written. A fault
shows numbers that are in the description, and the size of the grid, which is one of them. So if
every number in the description may be written, every fault can be worded.
-/

namespace GridPuzzle

open Fallible

/-! ## Parts of a description -/

namespace Description

variable {shown : Prop} {given : Value} {catalog : Option Catalog} {puzzle : Puzzle}

theorem reports_entriesOf (place : String) (given : Value) :
    Reports shown (entriesOf place given) := by
  unfold entriesOf
  split
  · exact .ok _
  · exact .error (.of_isWordable rfl rfl)

theorem reports_itemsOf (place : String) (given : Value) :
    Reports shown (itemsOf place given) := by
  unfold itemsOf
  split
  · exact .ok _
  · split
    · exact .ok _
    · exact .error (.of_isWordable rfl rfl)

theorem isWritable_of_itemsOf {place : String} {items : List Value} (h : given.isWritable = true)
    (hread : itemsOf place given = .ok items) : ∀ item ∈ items, item.isWritable = true := by
  unfold itemsOf at hread
  split at hread
  · obtain rfl := Except.ok.inj hread
    exact nofun
  · split at hread
    next hitems =>
      obtain rfl := Except.ok.inj hread
      exact Value.isWritable_of_list? h hitems
    next => cases hread

/-- The region map that is read is a sequence of sequences. -/
theorem readRegions_eq_ok {regions : Value} (h : readRegions given = .ok regions) :
    ∃ rows : List (List Value), regions = .tuple (rows.map Value.tuple) := by
  obtain ⟨_, _, h⟩ := bind_eq_ok.1 h
  obtain ⟨rows, _, h⟩ := bind_eq_ok.1 h
  exact ⟨rows, (Except.ok.inj h).symm⟩

theorem reports_readRegions (given : Value) : Reports shown (readRegions given) :=
  (reports_itemsOf _ given).bind fun _ _ ↦
    FaultsIn.bind (.mapM fun _ _ ↦ reports_itemsOf _ _) fun _ _ ↦ .ok _

theorem isWritable_of_readRegions {regions : Value} (h : given.isWritable = true)
    (hread : readRegions given = .ok regions) : regions.isWritable = true := by
  obtain ⟨items, hitems, hread⟩ := bind_eq_ok.1 hread
  obtain ⟨rows, hrows, hread⟩ := bind_eq_ok.1 hread
  obtain rfl := Except.ok.inj hread
  refine Value.areWritable_iff.2 fun row hrow ↦ ?_
  obtain ⟨cells, hcells, rfl⟩ := List.mem_map.1 hrow
  obtain ⟨⟨item, index⟩, hitem, heq⟩ := exists_mem_of_mapM_eq_ok hrows hcells
  have hmem : item ∈ items := by
    obtain ⟨_, _, hget⟩ := List.mem_zipIdx hitem
    exact hget ▸ List.getElem_mem _
  exact Value.areWritable_iff.2
    (isWritable_of_itemsOf (isWritable_of_itemsOf h hitems item hmem) heq)

theorem reports_readGrid (h : shown → given.isWritable = true) :
    Reports shown (readGrid given) := by
  refine (reports_entriesOf _ given).bind fun entries hentries ↦ ?_
  have hwritable (hshown : shown) :=
    Value.isWritable_of_entries? (h hshown) (entriesOf_eq_ok.1 hentries)
  have hget (key : String) (hshown : shown) := Entries.isWritable_get (hwritable hshown) key
  dsimp only
  split
  next boxes hboxes _ =>
    split
    next boxRows boxCols hpair =>
      refine Grid.reports_readBoxes fun hshown ↦ ?_
      have hboxes := Entries.isWritable_of_find? (hwritable hshown) hboxes
      have hpair := Value.isWritable_of_list? hboxes hpair
      simp [hget _ hshown, hpair boxRows, hpair boxCols]
    next => exact .error (.of_isWordable rfl rfl)
  next => exact .error (.of_isWordable rfl rfl)
  next => exact Grid.reports_read (hget _) (hget _) (fun _ ↦ rfl) (.inl rfl)
  next =>
    refine (reports_readRegions _).bind fun regions hregions ↦ ?_
    exact Grid.reports_read (hget _) (hget _)
      (fun hshown ↦ isWritable_of_readRegions (hget _ hshown) hregions)
      (.inr (readRegions_eq_ok hregions))

theorem isWritableSize_of_readGrid {grid : Grid} (h : given.isWritable = true)
    (hread : readGrid given = .ok grid) : Error.isWritableSize grid.rows grid.cols = true := by
  obtain ⟨entries, hentries, hread⟩ := bind_eq_ok.1 hread
  have hget := Entries.isWritable_get (Value.isWritable_of_entries? h (entriesOf_eq_ok.1 hentries))
  dsimp only at hread
  split at hread
  · split at hread
    · exact Grid.isWritableSize_of_readBoxes (hget _) (hget _) hread
    · cases hread
  · cases hread
  · exact Grid.isWritableSize_of_read (hget _) (hget _) hread
  · obtain ⟨regions, -, hread⟩ := bind_eq_ok.1 hread
    exact Grid.isWritableSize_of_read (hget _) (hget _) hread

/-- The name of a variable kind is the one thing that has to be written before any fault. -/
theorem reports_readKind {name settings : Value} (hname : shown → name.isWritable = true)
    (hsettings : shown → settings.isWritable = true) : Reports shown (readKind name settings) := by
  have hread {entries : Entries} (h : shown → ∀ entry ∈ entries,
      entry.1.isWritable = true ∧ entry.2.isWritable = true) :
      Reports shown (VariableKind.read name ((Entries.find? entries "type").getD (.text "int"))
        (Entries.get entries "min") (Entries.get entries "max")) := by
    refine VariableKind.reports_read hname (fun hshown ↦ ?_)
      (fun hshown ↦ Entries.isWritable_get (h hshown) _)
      fun hshown ↦ Entries.isWritable_get (h hshown) _
    cases htype : Entries.find? entries "type" with
    | none => rfl
    | some type => exact Entries.isWritable_of_find? (h hshown) htype
  unfold readKind
  cases hwritable : name.isWritable with
  | false => exact .error (.inr ⟨rfl, fun hshown ↦ by simp [hname hshown] at hwritable⟩)
  | true =>
    simp only [Bool.not_true, Bool.false_eq_true, if_false]
    split
    · exact (reports_entriesOf _ settings).bind fun entries hentries ↦ hread fun hshown ↦
        Value.isWritable_of_entries? (hsettings hshown) (entriesOf_eq_ok.1 hentries)
    · exact hread fun _ ↦ nofun

theorem reports_addKinds (puzzle : Puzzle) (h : shown → given.isWritable = true) :
    Reports shown (addKinds puzzle given) := by
  unfold addKinds
  split
  · exact .ok _
  · refine FaultsIn.bind ?_ fun kinds _ ↦ puzzle.reports_setKinds kinds
    refine (reports_entriesOf _ given).bind fun entries hentries ↦
      .mapM fun ⟨name, settings⟩ hentry ↦ ?_
    have hwritable (hshown : shown) :=
      Value.isWritable_of_entries? (h hshown) (entriesOf_eq_ok.1 hentries) _ hentry
    exact reports_readKind (fun hshown ↦ (hwritable hshown).1) fun hshown ↦ (hwritable hshown).2

theorem reports_readRuleId {fault : Error} (h : fault.IsReported shown) (given : Value) :
    Reports shown (readRuleId fault given) := by
  unfold readRuleId
  split
  · split
    · exact .error h
    · exact .ok _
  · exact .error h

theorem reports_addRule (catalog : Option Catalog) (puzzle : Puzzle) (item : Value × Nat) :
    Reports shown (addRule catalog puzzle item) :=
  (reports_readRuleId (.of_isWordable rfl rfl) item.1).bind fun id _ ↦ puzzle.reports_selectRule id

theorem reports_addConstraint (hsize : shown → puzzle.HasWritableSize) {item : Value × Nat}
    (h : shown → item.1.isWritable = true) :
    Reports shown (addConstraint catalog puzzle item) := by
  refine (reports_entriesOf _ item.1).bind fun entries hentries ↦ ?_
  refine (reports_readRuleId (.of_isWordable rfl rfl) _).bind fun id _ ↦ ?_
  refine (reports_itemsOf _ _).bind fun groups hgroups ↦ ?_
  refine (Puzzle.reports_placeRule hsize id fun hshown ↦ ?_).bind fun _ _ ↦ .ok _
  have hwritable := Value.isWritable_of_entries? (h hshown) (entriesOf_eq_ok.1 hentries)
  exact Value.areWritable_iff.2 (isWritable_of_itemsOf (Entries.isWritable_get hwritable _) hgroups)

theorem reports_addClue (hsize : shown → puzzle.HasWritableSize) {item : Value × Nat}
    (h : shown → item.1.isWritable = true) : Reports shown (addClue puzzle item) := by
  refine (reports_entriesOf _ item.1).bind fun entries hentries ↦ ?_
  have hget (key : String) (hshown : shown) := Entries.isWritable_get
    (Value.isWritable_of_entries? (h hshown) (entriesOf_eq_ok.1 hentries)) key
  have hcell (hshown : shown) := isWritable_pair (hget "row" hshown) (hget "col" hshown)
  dsimp only
  split
  · exact .error (.of_isWordable rfl rfl)
  · refine (Clue.reports_read hcell (hget _)).bind fun clue hclue ↦ ?_
    exact Puzzle.reports_addClue hsize fun hshown ↦ Clue.isWritable_of_read (hcell hshown) hclue

/-! ## Keys -/

def unknownKeys (entries : Entries) : List Value :=
  (entries.map Prod.fst).filter fun key ↦ !knownKeys.any fun known ↦ key.same (.text known)

/-- Two of several keys are not ordered. -/
def AreUnsortable (keys : List Value) : Prop :=
  1 < keys.length ∧ ∃ a ∈ keys, ∃ b ∈ keys, a.isComparable b = false

theorem sortKeys?_eq_none {keys : List Value} :
    Value.sortKeys? keys = none ↔ AreUnsortable keys := by
  simp [Value.sortKeys?, AreUnsortable]

theorem checkKeys_eq (entries : Entries) : checkKeys entries =
    if (unknownKeys entries).isEmpty then
      if Entries.has entries "grid" then .ok () else .error .gridMissing
    else
      match Value.sortKeys? (unknownKeys entries) with
      | some keys => .error (.unknownKeys keys (knownKeys.map .text))
      | none => .error .wrongType := by
  unfold checkKeys
  dsimp only
  rw [show List.filter _ (entries.map Prod.fst) = unknownKeys entries from rfl]
  cases (unknownKeys entries).isEmpty with
  | true => cases Entries.has entries "grid" <;> rfl
  | false => cases Value.sortKeys? (unknownKeys entries) <;> rfl

theorem checkKeys_eq_error {entries : Entries} {e : Error} (h : checkKeys entries = .error e) :
    (AreUnsortable (unknownKeys entries) ∧ e = .wrongType) ∨ e = .gridMissing ∨
      ∃ keys, Value.sortKeys? (unknownKeys entries) = some keys ∧
        e = .unknownKeys keys (knownKeys.map .text) := by
  rw [checkKeys_eq] at h
  split at h
  · split at h
    · cases h
    · exact .inr (.inl (Except.error.inj h).symm)
  · split at h
    next keys hkeys => exact .inr (.inr ⟨keys, hkeys, (Except.error.inj h).symm⟩)
    next hkeys => exact .inl ⟨sortKeys?_eq_none.1 hkeys, (Except.error.inj h).symm⟩

theorem checkKeys_of_unsortable {entries : Entries} (h : AreUnsortable (unknownKeys entries)) :
    checkKeys entries = .error .wrongType := by
  have hsome : (unknownKeys entries).isEmpty = false := by
    rw [List.isEmpty_eq_false_iff, ← List.length_pos_iff]
    exact Nat.zero_lt_of_lt h.1
  rw [checkKeys_eq, hsome, sortKeys?_eq_none.2 h]
  rfl

/-- Texts are ordered, so keys that are texts can be sorted. -/
theorem not_areUnsortable_of_texts {keys : List Value} (h : ∀ key ∈ keys, ∃ s, key = .text s) :
    ¬AreUnsortable keys := by
  rintro ⟨-, a, ha, b, hb, hab⟩
  obtain ⟨s, rfl⟩ := h a ha
  obtain ⟨t, rfl⟩ := h b hb
  cases hab

/-- Unknown keys are reported unless they cannot be sorted. -/
theorem faultsIn_checkKeys {entries : Entries} (h : shown → ∀ entry ∈ entries,
    entry.1.isWritable = true ∧ entry.2.isWritable = true) :
    FaultsIn (fun e ↦ e.IsReported shown ∨ e = .wrongType ∧ AreUnsortable (unknownKeys entries))
      (checkKeys entries) := by
  intro e he
  obtain ⟨hunsortable, rfl⟩ | rfl | ⟨keys, hkeys, rfl⟩ := checkKeys_eq_error he
  · exact .inr ⟨rfl, hunsortable⟩
  · exact .inl (.of_isWordable rfl rfl)
  · refine .inl (.of_category rfl fun hshown ↦ List.all_eq_true.2 fun key hkey ↦ ?_)
    have hmem : key ∈ unknownKeys entries := by
      unfold Value.sortKeys? at hkeys
      split at hkeys
      · rw [← Option.some.inj hkeys] at hkey
        exact List.mem_mergeSort.1 hkey
      · cases hkeys
    obtain ⟨entry, hentry, rfl⟩ := List.mem_map.1 (List.mem_of_mem_filter hmem)
    exact (h hshown entry hentry).1

/-! ## Whole descriptions -/

/-- A description reports what is wrong with it, unless it has unknown keys that cannot be sorted.
What its faults show is found in the description, or it is the size of the grid, which the parts
that follow leave as it was. -/
theorem faultsIn_toPuzzle (catalog : Option Catalog) {description : Value}
    (h : shown → description.isWritable = true) :
    FaultsIn (fun e ↦ e.IsReported shown ∨ e = .wrongType ∧
      ∃ entries, description.entries? = some entries ∧ AreUnsortable (unknownKeys entries))
      (toPuzzle catalog description) := by
  refine ((reports_entriesOf _ _).mono fun _ ↦ .inl).bind fun entries hentries ↦ ?_
  rw [entriesOf_eq_ok] at hentries
  have hwritable (hshown : shown) := Value.isWritable_of_entries? (h hshown) hentries
  have hget (key : String) (hshown : shown) := Entries.isWritable_get (hwritable hshown) key
  have hitems {key : String} {items : List Value}
      (hitems : itemsOf key (Entries.get entries key) = .ok items) (item : Value × Nat)
      (hitem : item ∈ items.zipIdx) (hshown : shown) : item.1.isWritable = true :=
    isWritable_of_itemsOf (hget key hshown) hitems _ (List.fst_mem_of_mem_zipIdx hitem)
  refine ((faultsIn_checkKeys hwritable).mono fun e he ↦
    he.imp_right fun ⟨hwrong, hkeys⟩ ↦ ⟨hwrong, entries, hentries, hkeys⟩).bind fun _ _ ↦ ?_
  refine FaultsIn.mono (?_ : Reports shown _) fun _ ↦ .inl
  refine (reports_readGrid (hget _)).bind fun grid hgrid ↦ ?_
  refine FaultsIn.bind (.ok _) fun sized hsized ↦ ?_
  have hsize (hshown : shown) : sized.HasWritableSize := fun other hother ↦ by
    rw [(Puzzle.setGrid_eq_ok hsized).2.2] at hother
    obtain rfl := Option.some.inj hother
    exact isWritableSize_of_readGrid (hget _ hshown) hgrid
  refine (reports_addKinds sized (hget _)).bind fun puzzle hkinds ↦ ?_
  have hsize (hshown : shown) := (hsize hshown).of_grid_eq (addKinds_grid hkinds)
  refine (reports_itemsOf _ _).bind fun rules _ ↦ ?_
  refine FaultsIn.bind (.foldlM (fun _ _ _ ↦ reports_addRule catalog _ _) _) fun puzzle hrules ↦ ?_
  have hsize (hshown : shown) := foldlM_induction (hsize hshown)
    (fun _ _ _ _ hc h ↦ hc.of_grid_eq (addRule_grid h)) hrules
  refine (reports_itemsOf _ _).bind fun constraints hconstraints ↦ ?_
  refine FaultsIn.bind (.foldlM_of_invariant hsize
    (fun _ _ _ _ hc h hshown ↦ (hc hshown).of_grid_eq (addConstraint_grid h))
    fun _ hc item hitem ↦ reports_addConstraint hc (hitems hconstraints item hitem))
    fun puzzle hplaced ↦ ?_
  have hsize (hshown : shown) := foldlM_induction (hsize hshown)
    (fun _ _ _ _ hc h ↦ hc.of_grid_eq (addConstraint_grid h)) hplaced
  refine (reports_itemsOf _ _).bind fun clues hclues ↦ ?_
  exact .foldlM_of_invariant hsize
    (fun _ _ _ _ hc h hshown ↦ (hc hshown).of_grid_eq (addClue_grid h))
    fun _ hc item hitem ↦ reports_addClue hc (hitems hclues item hitem)

/-- A description with text keys is rejected or names a variable kind by a number that is too long
to be written, if it cannot be read. -/
theorem faultsIn_toPuzzle_record (catalog : Option Catalog) (fields : List (String × Value)) :
    FaultsIn (fun e ↦ e.IsRejection ∨ e = .wrongValue) (toPuzzle catalog (.record fields)) := by
  intro e he
  have hfaults := faultsIn_toPuzzle catalog (fun h : False ↦ h.elim) e he
  obtain (⟨hrejection, -⟩ | ⟨hvalue, -⟩) | ⟨-, entries, hentries, hunsortable⟩ := hfaults
  · exact .inl hrejection
  · exact .inr hvalue
  · refine absurd hunsortable (not_areUnsortable_of_texts fun key hkey ↦ ?_)
    obtain rfl := Option.some.inj hentries
    obtain ⟨entry, hentry, rfl⟩ := List.mem_map.1 (List.mem_of_mem_filter hkey)
    obtain ⟨field, -, rfl⟩ := List.mem_map.1 hentry
    exact ⟨field.1, rfl⟩

/-- A description is refused by the type of something in it just if it has several unknown keys,
two of which are not ordered. Every other fault rejects it, and is reported as such unless a number
in the description is too long to be written. -/
theorem toPuzzle_faults (catalog : Option Catalog) (description : Value) :
    (toPuzzle catalog description = .error .wrongType ↔
      ∃ entries, description.entries? = some entries ∧ AreUnsortable (unknownKeys entries)) ∧
    ∀ e, toPuzzle catalog description = .error e → e ≠ .wrongType →
      e.settled.IsRejection ∨ e.settled = .wrongValue ∧ description.isWritable = false := by
  have hfaults := faultsIn_toPuzzle catalog fun h : description.isWritable = true ↦ h
  refine ⟨⟨fun h ↦ ?_, ?_⟩, fun e he hne ↦ ?_⟩
  · obtain (⟨hrejection, -⟩ | ⟨hvalue, -⟩) | ⟨-, hkeys⟩ := hfaults _ h
    · obtain hcategory | hcategory := hrejection <;> cases hcategory
    · cases hvalue
    · exact hkeys
  · rintro ⟨entries, hentries, hkeys⟩
    rw [toPuzzle, entriesOf_eq_ok.2 hentries, ok_bind, checkKeys_of_unsortable hkeys, error_bind]
  · obtain (⟨hrejection, hwordable⟩ | ⟨rfl, hwritable⟩) | ⟨rfl, -⟩ := hfaults e he
    · cases hword : e.isWordable with
      | true => exact .inl (by rwa [Error.settled_of_isWordable hword])
      | false =>
        refine .inr ⟨Error.settled_of_not_isWordable hword, ?_⟩
        exact Bool.eq_false_iff.2 fun hwritable ↦ by simp [hwordable hwritable] at hword
    · exact .inr ⟨rfl, Bool.eq_false_iff.2 hwritable⟩
    · exact absurd rfl hne

/-- One cell, and two keys that are not known, a number and a text. -/
def mixedKeys : Value :=
  .mapping [(.text "grid", .record [("rows", .int 1), ("cols", .int 1)]), (.int 1, .text "a"),
    (.text "x", .text "b")]

/-- The two keys are not reported, because they are to be listed in order. A value that is no
description at all is rejected. -/
theorem toPuzzle_mixedKeys : toPuzzle none mixedKeys = .error .wrongType ∧
    ∃ e, toPuzzle none .null = .error e ∧ e.settled.IsRejection := by
  constructor
  · refine (toPuzzle_faults none mixedKeys).1.2 ⟨_, rfl, ?_⟩
    have hunknown : unknownKeys [(.text "grid", .record [("rows", .int 1), ("cols", .int 1)]),
        (.int 1, .text "a"), (.text "x", .text "b")] = [.int 1, .text "x"] := by
      simp [unknownKeys, knownKeys, Value.same, Value.sameScalar, Value.toInt?]
    rw [hunknown]
    exact ⟨by decide, .int 1, by simp, .text "x", by simp, rfl⟩
  · obtain ⟨e, he, hne⟩ : ∃ e, toPuzzle none .null = .error e ∧ e ≠ .wrongType :=
      ⟨_, rfl, fun hkeys ↦ by cases hkeys⟩
    obtain hrejection | ⟨-, hlong⟩ := (toPuzzle_faults none .null).2 e he hne
    · exact ⟨e, he, hrejection⟩
    · cases hlong

end Description

end GridPuzzle
