import GridPuzzle.Proofs.Fallible
import GridPuzzle.Proofs.Text.Numeral
import GridPuzzle.Value.Text

/-!
# Untyped values

What a reader of untyped values relies on: a text is equal to itself only, and a list counts as
absent just if it has no items.
A value has a text if every integer in it may be written. Whatever is found in such a value, be it
an item, an entry or a collection that is linked, has a text, too.
-/

namespace GridPuzzle

namespace Value

@[simp] theorem text_same_text (s t : String) : (text s).same (text t) = (s == t) := by
  simp [same, sameScalar]

/-- Only a text is the same as a text. -/
theorem same_text_iff {given : Value} {s : String} :
    given.same (.text s) = true ↔ given = .text s := by
  cases given <;> simp [same, sameScalar, toInt?]

theorem opened_of_list? {given : Value} {items : List Value} (h : given.list? = some items) :
    given.opened = .list items := by
  unfold list? at h
  split at h
  next heq => rw [heq, Option.some.inj h]
  next => cases h

theorem isTruthy_of_list? {given : Value} {items : List Value} (h : given.list? = some items) :
    given.isTruthy = !items.isEmpty := by
  rw [isTruthy, opened_of_list? h]

end Value

/-- What a mapping with text keys holds under a key. -/
theorem Entries.get_record (fields : List (String × Value)) (key : String) :
    get (fields.map fun field ↦ (.text field.1, field.2)) key =
      ((fields.find? (·.1 == key)).map Prod.snd).getD .null := by
  simp [get, find?, List.find?_map, Function.comp_def]

/-! ## Values that can be written -/

namespace Value

theorem areWritable_iff {items : List Value} :
    areWritable items = true ↔ ∀ v ∈ items, v.isWritable = true := by
  induction items with
  | nil => simp [areWritable]
  | cons v rest ih => simp [areWritable, ih]

theorem areEntriesWritable_iff {entries : Entries} : areEntriesWritable entries = true ↔
    ∀ entry ∈ entries, entry.1.isWritable = true ∧ entry.2.isWritable = true := by
  induction entries with
  | nil => simp [areEntriesWritable]
  | cons entry rest ih => simp [areEntriesWritable, ih]

variable {collections : List Value}

theorem isWritable_follow (hcollections : areWritable collections = true) {v : Value}
    (hv : v.isWritable = true) : (follow collections v).isWritable = true := by
  cases v with
  | link n => exact hcollections
  | _ => exact hv

theorem isWritable_followItem (hcollections : areWritable collections = true) {v : Value}
    (hv : v.isWritable = true) : (followItem collections v).isWritable = true := by
  cases v with
  | tuple items =>
    refine areWritable_iff.2 fun item hitem ↦ ?_
    obtain ⟨item, hmem, rfl⟩ := List.mem_map.1 hitem
    exact isWritable_follow hcollections (areWritable_iff.1 hv item hmem)
  | link n => exact hcollections
  | _ => exact hv

theorem isWritable_opened {v : Value} (hv : v.isWritable = true) : v.opened.isWritable = true := by
  unfold opened
  split
  next collections n =>
    have hcollections : areWritable collections = true := hv
    have hmem {collection : Value} (h : collections[n]? = some collection) :
        collection.isWritable = true :=
      areWritable_iff.1 hcollections _ (List.mem_of_getElem? h)
    split
    next items heq =>
      refine areWritable_iff.2 fun item hitem ↦ ?_
      obtain ⟨item, hin, rfl⟩ := List.mem_map.1 hitem
      exact isWritable_followItem hcollections (areWritable_iff.1 (hmem heq) item hin)
    next entries heq =>
      refine areEntriesWritable_iff.2 fun entry hentry ↦ ?_
      obtain ⟨entry, hin, rfl⟩ := List.mem_map.1 hentry
      obtain ⟨hkey, hvalue⟩ := areEntriesWritable_iff.1 (hmem heq) entry hin
      exact ⟨hkey, isWritable_follow hcollections hvalue⟩
    next heq => exact hmem heq
    next => rfl
  next => exact hv

theorem isWritable_of_list? {v : Value} {items : List Value} (hv : v.isWritable = true)
    (h : v.list? = some items) : ∀ item ∈ items, item.isWritable = true := by
  have hopened := isWritable_opened hv
  rw [opened_of_list? h] at hopened
  exact areWritable_iff.1 hopened

theorem isWritable_of_entries? {v : Value} {entries : Entries} (hv : v.isWritable = true)
    (h : v.entries? = some entries) :
    ∀ entry ∈ entries, entry.1.isWritable = true ∧ entry.2.isWritable = true := by
  have hopened := isWritable_opened hv
  unfold entries? at h
  split at h
  next heq =>
    obtain rfl := Option.some.inj h
    rw [heq] at hopened
    exact areEntriesWritable_iff.1 hopened
  next => cases h

theorem isWritable_of_items? {v : Value} {items : List Value} (hv : v.isWritable = true)
    (h : v.items? = some items) : ∀ item ∈ items, item.isWritable = true := by
  have hopened := isWritable_opened hv
  unfold items? at h
  split at h
  case h_1 heq | h_2 heq | h_3 heq =>
    obtain rfl := Option.some.inj h
    rw [heq] at hopened
    exact areWritable_iff.1 hopened
  case h_4 =>
    obtain rfl := Option.some.inj h
    intro item hitem
    obtain ⟨_, _, rfl⟩ := List.mem_map.1 hitem
    rfl
  case h_5 =>
    obtain rfl := Option.some.inj h
    intro item hitem
    obtain ⟨b, _, rfl⟩ := List.mem_map.1 hitem
    exact Text.isWritable_of_lt_pow (k := 3) (by decide) (by have := b.toNat_lt; omega)
  case h_6 heq =>
    obtain rfl := Option.some.inj h
    rw [heq] at hopened
    intro item hitem
    obtain ⟨entry, hentry, rfl⟩ := List.mem_map.1 hitem
    exact (areEntriesWritable_iff.1 hopened entry hentry).1
  case h_7 => cases h

end Value

namespace Entries

variable {entries : Entries} {key : String}

theorem isWritable_of_find?
    (h : ∀ entry ∈ entries, entry.1.isWritable = true ∧ entry.2.isWritable = true) {v : Value}
    (hfind : find? entries key = some v) : v.isWritable = true := by
  obtain ⟨entry, hentry, rfl⟩ := Option.map_eq_some_iff.1 hfind
  exact (h entry (List.mem_of_find?_eq_some hentry)).2

theorem isWritable_get
    (h : ∀ entry ∈ entries, entry.1.isWritable = true ∧ entry.2.isWritable = true) (key : String) :
    (get entries key).isWritable = true := by
  unfold get
  cases hfind : find? entries key with
  | none => rfl
  | some v => exact isWritable_of_find? h hfind

end Entries

/-! ## Faults -/

namespace Error

variable {e : Error}

theorem settled_of_isWordable (h : e.isWordable = true) : e.settled = e := by
  rw [settled, if_pos h]

theorem settled_of_not_isWordable (h : e.isWordable = false) : e.settled = .wrongValue := by
  rw [settled, h]
  rfl

/-- A wrong configuration is reported as such unless it cannot be worded. -/
theorem settled_of_category (h : e.category = .configuration) :
    e.settled.category = .configuration ∨ e.settled = .wrongValue ∧ e.isWordable = false := by
  cases hwordable : e.isWordable with
  | true => exact .inl (by rwa [settled_of_isWordable hwordable])
  | false => exact .inr ⟨settled_of_not_isWordable hwordable, rfl⟩

end Error

end GridPuzzle
