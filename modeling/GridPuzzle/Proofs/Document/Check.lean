import GridPuzzle.Document.Check
import GridPuzzle.Proofs.Fallible

/-!
# What the check of a document says

The check passes exactly when no name is declared twice and every reference passes. A fault of the
check is one of the text itself, or a reference whose numbers are too long to be read.
-/

namespace GridPuzzle.Document

open Fallible

theorem firstRepeated?_eq_none {seen names : List String} :
    firstRepeated? seen names = none ↔ names.Nodup ∧ ∀ name ∈ names, name ∉ seen := by
  induction names generalizing seen with
  | nil => simp [firstRepeated?]
  | cons name rest ih =>
    unfold firstRepeated?
    by_cases hname : name ∈ seen
    · simp [hname]
    · have hcontains : seen.contains name = false := by simpa using hname
      rw [hcontains, if_neg Bool.false_ne_true, ih, List.nodup_cons, List.forall_mem_cons]
      simp only [List.mem_cons, not_or]
      constructor
      · rintro ⟨hnodup, hrest⟩
        exact ⟨⟨fun hmem ↦ (hrest name hmem).1 rfl, hnodup⟩, hname, fun x hx ↦ (hrest x hx).2⟩
      · rintro ⟨⟨hnot, hnodup⟩, _, hrest⟩
        exact ⟨hnodup, fun x hx ↦ ⟨ne_of_mem_of_not_mem hx hnot, hrest x hx⟩⟩

/-- A reference with short numbers that lies within the shape of its array. -/
def IsWithin (shapes : Shapes) (reference : CellReference) : Prop :=
  reference.isReadable = true ∧ ∃ rows cols, shapes.lookup reference.array = some (rows, cols) ∧
    1 ≤ reference.row ∧ reference.row ≤ rows ∧ 1 ≤ reference.col ∧ reference.col ≤ cols

theorem check_eq_ok {text : String} {shapes : Shapes} (hnames : (declaredNames text).Nodup)
    (hfound : ∀ found ∈ CellReference.allIn (codeOf text), IsWithin shapes found.1) :
    check text shapes = .ok () := by
  have hrepeated : firstRepeated? [] (declaredNames text) = none :=
    firstRepeated?_eq_none.2 ⟨hnames, by simp⟩
  unfold check checkWith
  rw [hrepeated]
  refine forM_eq_ok.2 fun found hmem ↦ ?_
  obtain ⟨hreadable, rows, cols, hlookup, hrow, hrows, hcol, hcols⟩ := hfound found hmem
  simp [checkReference, hreadable, hlookup, checkWithin, hrow, hrows, hcol, hcols]

theorem nodup_of_check_eq_ok {text : String} {shapes : Shapes} (h : check text shapes = .ok ()) :
    (declaredNames text).Nodup := by
  unfold check checkWith at h
  split at h
  next => simp at h
  next hnone => exact (firstRepeated?_eq_none.1 hnone).1

theorem check_eq_error {text : String} {shapes : Shapes} {e : Error}
    (h : check text shapes = .error e) : e.category = .assembly ∨
      e = .wrongValue ∧
        ∃ found ∈ CellReference.allIn (codeOf text), found.1.isReadable = false := by
  unfold check checkWith at h
  split at h
  next name _ =>
    obtain rfl := Except.error.inj h
    exact .inl rfl
  next =>
    obtain ⟨found, hmem, h⟩ := forM_eq_error h
    unfold checkReference at h
    by_cases hreadable : found.1.isReadable = true
    · left
      simp only [hreadable, Bool.not_true, Bool.false_eq_true, if_false] at h
      cases hlookup : shapes.lookup found.1.array with
      | some shape =>
        simp only [hlookup, Option.map_some, checkWithin] at h
        split at h
        · simp at h
        · obtain rfl := Except.error.inj h
          rfl
      | none =>
        simp only [hlookup, Option.map_none] at h
        split at h
        · simp at h
        · obtain rfl := Except.error.inj h
          rfl
    · right
      have hfalse : found.1.isReadable = false := by simpa using hreadable
      simp only [hfalse, Bool.not_false, if_true] at h
      exact ⟨(Except.error.inj h).symm, found, hmem, hfalse⟩

end GridPuzzle.Document
