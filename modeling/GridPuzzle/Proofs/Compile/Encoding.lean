import GridPuzzle.Proofs.Compile.Layout
import GridPuzzle.Proofs.Text.Separated

/-!
# What sections tell

The section of a grid is that of no other grid. The section of a variable kind tells the array and
the domain of the kind, and the lines of clues tell for every clue the array, the cell and the
value. The line of a marker tells the marker, if the id of its rule has no blank.
-/

namespace GridPuzzle

open Fallible Standard Text
open CellReference (placeText)

/-! ## Variable kinds -/

/-- The characters of the array of a variable kind. -/
def IsArrayText (s : List Char) : Prop := ∀ c ∈ s, isIdentifierChar c = true ∨ c = '\n'

theorem VariableKind.isArrayText (kind : VariableKind) : IsArrayText kind.array.toList := by
  intro c hc
  obtain hplain | ⟨s, hplain, heq⟩ := kind.array_cases
  · exact .inl (isIdentifierChar_of_plain hplain c hc)
  · rw [heq] at hc
    obtain hc | hc := List.mem_append.1 hc
    · exact .inl (isIdentifierChar_of_plain hplain c hc)
    · exact .inr (List.mem_singleton.1 hc)

theorem IsArrayText.notMem {s : List Char} (h : IsArrayText s) {c : Char}
    (hc : isIdentifierChar c = false) (hne : c ≠ '\n') : c ∉ s := by
  intro hmem
  obtain htrue | heq := h c hmem
  · simp [htrue] at hc
  · exact hne heq

namespace Domain

theorem blank_notMem_text (domain : Domain) : ' ' ∉ domain.text.toList := by
  cases domain with
  | int min max h =>
    rw [toList_text_int, List.mem_append, List.mem_cons, List.mem_cons]
    simp [notMem_intText (c := ' ') (by decide) (by decide)]
  | bool => decide

/-- A domain is told by its text. -/
theorem text_injective : Function.Injective text := by
  have hdot (n : Int) : '.' ∉ (intText n).toList := notMem_intText (by decide) (by decide) n
  have hbool {min max : Int} (hle : min ≤ max) : text (.int min max hle) ≠ text .bool := by
    intro h
    have hmem : '.' ∈ (text .bool).toList := by
      rw [← h, toList_text_int]
      simp
    exact absurd hmem (by decide)
  intro domain other h
  cases domain with
  | int min max hle =>
    cases other with
    | int min' max' hle' =>
      have hchars := congrArg String.toList h
      rw [toList_text_int, toList_text_int] at hchars
      obtain ⟨hmin, hrest⟩ := append_cons_inj (hdot min) (hdot min') hchars
      have hmax := (List.cons.inj hrest).2
      obtain rfl := intText_injective (String.toList_inj.1 hmin)
      obtain rfl := intText_injective (String.toList_inj.1 hmax)
      rfl
    | bool => exact absurd h (hbool hle)
  | bool =>
    cases other with
    | int min max hle => exact absurd h.symm (hbool hle)
    | bool => rfl

end Domain

/-- The section of a variable kind tells the array and the domain. -/
theorem declareKind_inj {kind own : VariableKind} (h : declareKind kind = declareKind own) :
    kind.array = own.array ∧ kind.domain = own.domain := by
  have hblank (kind : VariableKind) : ' ' ∉ kind.array.toList ++ [';'] := by
    have harray : ' ' ∉ kind.array.toList := kind.isArrayText.notMem (by decide) (by decide)
    simp [harray]
  have hdomain (kind : VariableKind) : ' ' ∉ kind.domain.text.toList ++ [':'] := by
    simp [kind.domain.blank_notMem_text]
  have hchars (kind : VariableKind) : (declareKind kind).toList =
      ((comment ("variable kind: " ++ kind.name)).toList ++
        '\n' :: (arrayStart ++ ['v', 'a', 'r']) ++ ' ' :: (kind.domain.text.toList ++ [':'])) ++
      ' ' :: (kind.array.toList ++ [';']) := by
    rw [toList_declareKind]
    simp [Domain.typeText]
  have hlists := congrArg String.toList h
  rw [hchars, hchars] at hlists
  -- the array stands behind the last blank, and the domain behind the last but one
  obtain ⟨hfront, harray⟩ := append_cons_inj_last (hblank kind) (hblank own) hlists
  obtain ⟨_, htext⟩ := append_cons_inj_last (hdomain kind) (hdomain own) hfront
  refine ⟨String.toList_inj.1 (List.append_cancel_right harray), ?_⟩
  exact Domain.text_injective (String.toList_inj.1 (List.append_cancel_right htext))

/-! ## The grid -/

/-- A matrix is told by its text, if it has a row and no row is empty. -/
theorem matrixText_inj {matrix own : List (List Int)} (hne : matrix ≠ []) (hne' : own ≠ [])
    (hrows : ∀ row ∈ matrix, row ≠ []) (hrows' : ∀ row ∈ own, row ≠ [])
    (h : matrixText matrix = matrixText own) : matrix = own := by
  have hnumerals (row : List Int) : ∀ p ∈ row.map intText, ',' ∉ p.toList := by
    intro p hp
    obtain ⟨n, _, rfl⟩ := List.mem_map.1 hp
    exact notMem_intText (by decide) (by decide) n
  have hbar (row : List Int) : '|' ∉ (join ", " (row.map intText)).toList := by
    apply notMem_join
    · decide
    · intro p hp
      obtain ⟨n, _, rfl⟩ := List.mem_map.1 hp
      exact notMem_intText (by decide) (by decide) n
  have hbars (matrix : List (List Int)) :
      ∀ p ∈ matrix.map fun row ↦ join ", " (row.map intText), '|' ∉ p.toList := by
    intro p hp
    obtain ⟨row, _, rfl⟩ := List.mem_map.1 hp
    exact hbar row
  have hjoined : join " | " (matrix.map fun row ↦ join ", " (row.map intText)) =
      join " | " (own.map fun row ↦ join ", " (row.map intText)) := by
    have hlists := congrArg String.toList h
    simp only [matrixText, String.toList_append, List.append_assoc] at hlists
    exact String.toList_inj.1 (List.append_cancel_right (List.append_cancel_left hlists))
  have hbarSep : " | ".toList = [' '] ++ '|' :: [' '] := rfl
  have hcommaSep : ", ".toList = [] ++ ',' :: [' '] := rfl
  have htexts := join_inj hbarSep (by decide) (hbars matrix) (hbars own) (by simpa using hne)
    (by simpa using hne') hjoined
  have hlists := map_eq_map_of_map_eq_map (g := id) ?_ htexts
  · simpa using hlists
  · intro row hrow row' hrow' heq
    have hnumerals := join_inj hcommaSep (by decide) (hnumerals row) (hnumerals row')
      (by simpa using hrows row hrow) (by simpa using hrows' row' hrow') heq
    exact List.map_injective_iff.2 intText_injective hnumerals

/-- A region map is told by the matrix in which regions are counted from one. -/
theorem regionMap_inj {rows cols : Nat} (hrows : 0 < rows) (hcols : 0 < cols)
    {map own : RegionMap rows cols}
    (h : matrixText (map.ids.map (·.map (· + 1))) = matrixText (own.ids.map (·.map (· + 1)))) :
    map = own := by
  have hne (map : RegionMap rows cols) : map.ids.map (·.map (· + 1)) ≠ [] := by
    intro hnil
    have hlength := map.shape.1
    rw [List.map_eq_nil_iff.1 hnil, List.length_nil] at hlength
    omega
  have hcells (map : RegionMap rows cols) : ∀ row ∈ map.ids.map (·.map (· + 1)), row ≠ [] := by
    intro row hrow hnil
    obtain ⟨ids, hids, rfl⟩ := List.mem_map.1 hrow
    have hlength := map.shape.2 ids hids
    rw [List.map_eq_nil_iff.1 hnil, List.length_nil] at hlength
    omega
  have hmaps := matrixText_inj (hne map) (hne own) (hcells map) (hcells own) h
  have hids : map.ids = own.ids :=
    List.map_injective_iff.2 (List.map_injective_iff.2 (add_left_injective 1)) hmaps
  cases map
  cases own
  congr

/-- What the comment on a grid says behind its first word. -/
def regionsMark (hasRegions : Bool) : List Char :=
  if hasRegions then [] else " (no regions defined)".toList

theorem regionsMark_inj : ∀ hasRegions given, regionsMark hasRegions = regionsMark given →
    hasRegions = given := by decide

/-- The comment that heads the section of a grid tells whether the grid has a region map. -/
theorem toList_gridComment (hasRegions : Bool) :
    (comment (if hasRegions then "grid" else "grid (no regions defined)")).toList =
      "% grid".toList ++ regionsMark hasRegions := by
  cases hasRegions with
  | true =>
    have hcomment : comment "grid" = "% grid" := comment_of_endsText (by decide) (by decide)
    simp [hcomment, regionsMark]
  | false =>
    have hcomment : comment "grid (no regions defined)" = "% grid (no regions defined)" :=
      comment_of_endsText (by decide) (by decide)
    simp [hcomment, regionsMark]

theorem toList_declareGrid (grid : Grid) : (declareGrid grid).toList =
    (comment (if grid.regions.isSome then "grid" else "grid (no regions defined)")).toList ++
      '\n' :: ("int: rows = ".toList ++ (decimal grid.rows ++ ';' :: ("\nint: cols = ".toList ++
        (decimal grid.cols ++ ';' :: ("\nint: n_regions = ".toList ++ (decimal grid.regionCount ++
          ';' :: ("\narray[1..rows, 1..cols] of int: regions = ".toList ++
            ((matrixText grid.emittedMap).toList ++ [';'])))))))) := by
  simp [declareGrid, toList_unlines_cons, unlines_singleton, String.toList_append, toList_natText]

/-- The section of a grid tells the grid. -/
theorem declareGrid_injective : Function.Injective declareGrid := by
  intro grid own h
  have hlists := congrArg String.toList h
  rw [toList_declareGrid, toList_declareGrid, toList_gridComment, toList_gridComment] at hlists
  have hbreak (hasRegions : Bool) : '\n' ∉ "% grid".toList ++ regionsMark hasRegions := by
    cases hasRegions <;> decide
  have hsemicolon (n : Nat) : ';' ∉ decimal n := notMem_decimal (by decide) n
  obtain ⟨hcomment, hlists⟩ := append_cons_inj (hbreak _) (hbreak _) hlists
  obtain ⟨hrows, hlists⟩ :=
    append_cons_inj (hsemicolon _) (hsemicolon _) (List.append_cancel_left hlists)
  obtain ⟨hcols, hlists⟩ :=
    append_cons_inj (hsemicolon _) (hsemicolon _) (List.append_cancel_left hlists)
  obtain ⟨_, hlists⟩ :=
    append_cons_inj (hsemicolon _) (hsemicolon _) (List.append_cancel_left hlists)
  have hmatrix := String.toList_inj.1 (List.append_cancel_right (List.append_cancel_left hlists))
  have hsome := regionsMark_inj _ _ (List.append_cancel_left hcomment)
  obtain ⟨rows, cols, regions, hrowsPos, hcolsPos⟩ := grid
  obtain ⟨rows', cols', regions', _, _⟩ := own
  obtain rfl : rows = rows' := decimal_injective hrows
  obtain rfl : cols = cols' := decimal_injective hcols
  cases regions with
  | none =>
    cases regions' with
    | none => rfl
    | some map => simp at hsome
  | some map =>
    cases regions' with
    | none => simp at hsome
    | some map' =>
      obtain rfl : map = map' := regionMap_inj hrowsPos hcolsPos hmatrix
      rfl

/-! ## Clues -/

structure Pin where
  array : String
  cell : Cell
  value : ClueValue

def Puzzle.pins (puzzle : Puzzle) : Except Error (List Pin) :=
  puzzle.clues.mapM fun clue ↦
    (puzzle.kindOf clue).map fun kind ↦ ⟨kind.array, clue.cell, clue.value⟩

/-- The value of a clue is told by its text. -/
theorem ClueValue.emitted_injective : Function.Injective ClueValue.emitted := by
  have hword (b : Bool) : 'e' ∈ (emitted (.bool b)).toList := by cases b <;> decide
  have hnumber (n : Int) (b : Bool) : emitted (.int n) ≠ emitted (.bool b) := by
    intro h
    have hmem := hword b
    rw [← h] at hmem
    exact notMem_intText (by decide) (by decide) n hmem
  intro value own h
  cases value with
  | int n =>
    cases own with
    | int m => rw [intText_injective h]
    | bool b => exact absurd h (hnumber n b)
  | bool b =>
    cases own with
    | int n => exact absurd h.symm (hnumber n b)
    | bool b' => revert b b'; decide

namespace Pin

def body (pin : Pin) : List Char :=
  Document.constraintStart ++ (pin.array.toList ++
    '[' :: (decimal (pin.cell.row + 1) ++ ',' :: ' ' :: (decimal (pin.cell.col + 1) ++
      ']' :: ([' ', '=', ' '] ++ pin.value.emitted.toList))))

def text (pin : Pin) : String := String.ofList (pin.body ++ [';'])

theorem semicolon_notMem_body {pin : Pin} (h : IsArrayText pin.array.toList) : ';' ∉ pin.body := by
  have harray : ';' ∉ pin.array.toList := h.notMem (by decide) (by decide)
  have hdigits (n : Nat) : ';' ∉ decimal n := notMem_decimal (by decide) n
  have hvalue : ';' ∉ pin.value.emitted.toList := by
    cases pin.value with
    | int n => exact notMem_intText (by decide) (by decide) n
    | bool b => cases b <;> decide
  have hstart : ';' ∉ Document.constraintStart := by decide
  simp [body, harray, hdigits, hvalue, hstart]

/-- A clue is told by its constraint. -/
theorem body_inj {pin own : Pin} (h : IsArrayText pin.array.toList)
    (h' : IsArrayText own.array.toList) (hbody : pin.body = own.body) : pin = own := by
  have hcomma (n : Nat) : ',' ∉ decimal n := notMem_decimal (by decide) n
  have hclosing (n : Nat) : ']' ∉ decimal n := notMem_decimal (by decide) n
  obtain ⟨harray, hrest⟩ := append_cons_inj (h.notMem (by decide) (by decide))
    (h'.notMem (by decide) (by decide)) (List.append_cancel_left hbody)
  obtain ⟨hrow, hrest⟩ := append_cons_inj (hcomma _) (hcomma _) hrest
  obtain ⟨hcol, hrest⟩ := append_cons_inj (hclosing _) (hclosing _) (List.cons.inj hrest).2
  have hvalue := String.toList_inj.1 (List.append_cancel_left hrest)
  obtain ⟨array, ⟨row, col⟩, value⟩ := pin
  obtain ⟨array', ⟨row', col'⟩, value'⟩ := own
  obtain rfl : array = array' := String.toList_inj.1 harray
  obtain rfl : row = row' := Nat.succ.inj (decimal_injective hrow)
  obtain rfl : col = col' := Nat.succ.inj (decimal_injective hcol)
  obtain rfl : value = value' := ClueValue.emitted_injective hvalue
  rfl

end Pin

theorem clueLine_eq (kind : VariableKind) (clue : Clue) :
    clueLine kind clue = Pin.text ⟨kind.array, clue.cell, clue.value⟩ := by
  rw [← String.toList_inj, toList_clueLine]
  simp [Pin.text, Pin.body, placeText]

theorem clueLines_eq (puzzle : Puzzle) :
    puzzle.clueLines = puzzle.pins.map (List.map Pin.text) := by
  rw [Puzzle.pins, ← mapM_map_eq]
  apply mapM_congr
  intro clue _
  cases puzzle.kindOf clue with
  | error fault => rfl
  | ok kind => exact congrArg Except.ok (clueLine_eq kind clue)

theorem isArrayText_of_pins {puzzle : Puzzle} {pins : List Pin} (h : puzzle.pins = .ok pins) :
    ∀ pin ∈ pins, IsArrayText pin.array.toList := by
  intro pin hpin
  obtain ⟨clue, _, hmade⟩ := exists_mem_of_mapM_eq_ok h hpin
  obtain ⟨kind, _, rfl⟩ := map_eq_ok.1 hmade
  exact kind.isArrayText

/-- The lines of clues one below the other tell the clues. -/
theorem unlines_pins_inj {pins own : List Pin} (h : ∀ pin ∈ pins, IsArrayText pin.array.toList)
    (h' : ∀ pin ∈ own, IsArrayText pin.array.toList) (hne : pins ≠ []) (hne' : own ≠ [])
    (htext : unlines (pins.map Pin.text) = unlines (own.map Pin.text)) : pins = own := by
  have hflat {pins : List Pin} (hne : pins ≠ []) :
      (unlines (pins.map Pin.text)).toList ++ ['\n'] =
        (pins.map Pin.body).flatMap (· ++ [';', '\n']) := by
    rw [toList_unlines, intercalate_append_sep (by simpa using hne)]
    simp [List.flatMap_map, Pin.text]
  have hsemicolon {pins : List Pin} (h : ∀ pin ∈ pins, IsArrayText pin.array.toList) :
      ∀ p ∈ pins.map Pin.body, ';' ∉ p := by
    intro p hp
    obtain ⟨pin, hpin, rfl⟩ := List.mem_map.1 hp
    exact Pin.semicolon_notMem_body (h pin hpin)
  have hsep : [';', '\n'] = [] ++ ';' :: ['\n'] := rfl
  have hbodies := flatMap_append_sep_inj hsep (by decide) (hsemicolon h) (hsemicolon h')
    (by rw [← hflat hne, ← hflat hne', htext])
  have hpins := map_eq_map_of_map_eq_map (g := id) (fun pin hpin pin' hpin' heq ↦
    Pin.body_inj (h pin hpin) (h' pin' hpin') heq) hbodies
  simpa using hpins

/-- The section of the clues, or that there is none, tells the clues. -/
theorem clueSections_inj {pins own : List Pin} (h : ∀ pin ∈ pins, IsArrayText pin.array.toList)
    (h' : ∀ pin ∈ own, IsArrayText pin.array.toList)
    (hsections : clueSections (pins.map Pin.text) = clueSections (own.map Pin.text)) :
    pins = own := by
  cases hpins : pins with
  | nil =>
    cases hown : own with
    | nil => rfl
    | cons pin rest => simp [clueSections, hpins, hown] at hsections
  | cons pin rest =>
    cases hown : own with
    | nil => simp [clueSections, hpins, hown] at hsections
    | cons pin' rest' =>
      have hne : pins ≠ [] := by simp [hpins]
      have hne' : own ≠ [] := by simp [hown]
      have htexts : unlines (comment "clues" :: pins.map Pin.text) =
          unlines (comment "clues" :: own.map Pin.text) := by
        simpa [clueSections, hne, hne'] using hsections
      rw [unlines_cons _ (by simpa using hne), unlines_cons _ (by simpa using hne')] at htexts
      rw [← hpins, ← hown]
      apply unlines_pins_inj h h' hne hne'
      have hlists := congrArg String.toList htexts
      rw [String.toList_append, String.toList_append (s := comment "clues" ++ "\n")] at hlists
      exact String.toList_inj.1 (List.append_cancel_left hlists)

/-! ## Markers -/

namespace Marker

def opening : Marker → String
  | wholeGrid _ => "% global rule"
  | _ => "% local rule"

/-- What stands behind the id of the rule if a blank is put behind the line. -/
def closing : Marker → String
  | wholeGrid _ => ""
  | shared _ => "(shared definitions) "
  | placed _ position => "(instance " ++ (natText position ++ ") ")

theorem toList_line_append (marker : Marker) : marker.line.toList ++ [' '] =
    marker.opening.toList ++
      ':' :: ' ' :: (marker.rule.toList ++ ' ' :: marker.closing.toList) := by
  cases marker <;> simp [line, text, opening, rule, closing]

/-- A marker on a rule whose id has no blank is told by its line. -/
theorem line_inj {marker own : Marker} (h : ' ' ∉ marker.rule.toList) (h' : ' ' ∉ own.rule.toList)
    (hline : marker.line = own.line) : marker = own := by
  have hcolon (marker : Marker) : ':' ∉ marker.opening.toList := by cases marker <;> simp [opening]
  have hlists : marker.line.toList ++ [' '] = own.line.toList ++ [' '] := by rw [hline]
  rw [toList_line_append, toList_line_append] at hlists
  obtain ⟨_, hrest⟩ := append_cons_inj (hcolon marker) (hcolon own) hlists
  obtain ⟨hchars, hclosing⟩ := append_cons_inj h h' (List.cons.inj hrest).2
  have hid := String.toList_inj.1 hchars
  cases marker with
  | wholeGrid id =>
    cases own with
    | wholeGrid id' => exact congrArg wholeGrid hid
    | shared id' => simp [closing] at hclosing
    | placed id' position' => simp [closing] at hclosing
  | shared id =>
    cases own with
    | wholeGrid id' => simp [closing] at hclosing
    | shared id' => exact congrArg shared hid
    | placed id' position' => simp [closing] at hclosing
  | placed id position =>
    cases own with
    | wholeGrid id' => simp [closing] at hclosing
    | shared id' => simp [closing] at hclosing
    | placed id' position' =>
      have hposition : position = position' := by
        apply decimal_injective
        rw [← toList_natText, ← toList_natText]
        simp only [closing, String.toList_append] at hclosing
        exact List.append_cancel_right (List.append_cancel_left hclosing)
      exact congrArg₂ placed hid hposition

end Marker

end GridPuzzle
