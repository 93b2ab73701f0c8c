import GridPuzzle.Proofs.Constraint.Predicate
import GridPuzzle.Proofs.Generator.Answer

/-!
# What lines and dots say

The rules on neighbours write one sentence for each two neighbours of a group. Along a thermometer
this amounts to digits that are less than all later ones, and the other rules relate neighbours in a
way that does not depend on the direction of the group. What the predicates of the dots stand for is
taken from the fragments of these rules.
-/

namespace GridPuzzle

/-- The group that passes the same cells the other way. -/
def Group.reversed (group : Group) : Group := { group with cells := group.cells.reverse }

namespace Line

/-! ## Digits along a group -/

/-- Each two neighbouring digits are related. -/
def AreRelated (relation : Int → Int → Prop) (digits : List Int) : Prop :=
  ∀ i, (h : i + 1 < digits.length) → relation digits[i] digits[i + 1]

/-- Every digit is less than all that come later. -/
def AreIncreasing (digits : List Int) : Prop :=
  ∀ i j, (hij : i < j) → (hj : j < digits.length) → digits[i] < digits[j]

variable {relation : Int → Int → Prop} {digits : List Int}

theorem isChain_iff_areRelated : digits.IsChain relation ↔ AreRelated relation digits :=
  List.isChain_iff_getElem

/-- Digits that are less than their successors are less than all later ones. -/
theorem areRelated_lt : AreRelated (· < ·) digits ↔ AreIncreasing digits := by
  calc
    AreRelated (· < ·) digits ↔ digits.IsChain (· < ·) := isChain_iff_areRelated.symm
    _ ↔ digits.Pairwise (· < ·) := List.isChain_iff_pairwise
    _ ↔ AreIncreasing digits := by
      rw [List.pairwise_iff_getElem]
      exact ⟨fun h i j hij hj ↦ h i j (hij.trans hj) hj hij, fun h i j _ hj hij ↦ h i j hij hj⟩

theorem areRelated_reverse (hsymm : ∀ m n, relation m n → relation n m) :
    AreRelated relation digits.reverse ↔ AreRelated relation digits := by
  have hswap : (fun m n ↦ relation n m) = relation := by
    funext m n
    exact propext ⟨hsymm n m, hsymm m n⟩
  rw [← isChain_iff_areRelated, List.isChain_reverse, hswap, isChain_iff_areRelated]

/-- Two digits or more do not increase in both directions. -/
theorem not_areIncreasing_reverse (hlength : 2 ≤ digits.length) (h : AreIncreasing digits) :
    ¬AreIncreasing digits.reverse := by
  match digits, hlength with
  | first :: second :: rest, _ =>
    intro hreverse
    have hup : first < second := h 0 1 (by omega) (by simp)
    have hchain : (first :: second :: rest).IsChain fun m n ↦ n < m :=
      List.isChain_reverse.1 (isChain_iff_areRelated.2 (areRelated_lt.2 hreverse))
    have hdown : second < first := (List.isChain_cons_cons.1 hchain).1
    omega

/-- The positions of distinct cells increase. -/
theorem exists_areIncreasing {cells : List Cell} (h : cells.Nodup) :
    ∃ value : Assignment, AreIncreasing (cells.map value) := by
  refine ⟨fun cell ↦ cells.idxOf cell, fun i j hij hj ↦ ?_⟩
  rw [List.length_map] at hj
  simp only [List.getElem_map, h.idxOf_getElem]
  omega

/-! ## Items of neighbours -/

theorem length_neighbours (cells : List Cell) : (neighbours cells).length = cells.length - 1 := by
  simp [neighbours]

/-- The neighbours at a position are the cells there and behind it. -/
theorem neighbours_getElem? (cells : List Cell) {i : Nat} (h : i + 1 < cells.length) :
    (neighbours cells)[i]? = some (cells[i], cells[i + 1]) := by
  have hi : i < (neighbours cells).length := by
    rw [length_neighbours]
    omega
  rw [List.getElem?_eq_getElem hi]
  simp [neighbours]

/-- An item for two cells that is read as a sentence and demands a relation of their digits. -/
structure Relates (item : Cell → Cell → Item) (sentence : Cell → Cell → Sentence)
    (relation : Int → Int → Prop) : Prop where
  cells : ∀ a b, (item a b).cells = [a, b]
  short : ∀ a b, (item a b).isShort = true
  readable : ∀ a b, (item a b).IsReadable
  reads : ∀ a b, (item a b).sentence? = some (sentence a b)
  demands : ∀ value total a b, (item a b).Holds value total ↔ relation (value a) (value b)

namespace Relates

theorem less : Relates .less (fun a b ↦ .constraint (.less [⟨1, a.atom⟩] [⟨1, b.atom⟩])) (· < ·) :=
  ⟨fun _ _ ↦ rfl, fun _ _ ↦ rfl, fun _ _ ↦ trivial, fun _ _ ↦ rfl, fun _ _ _ _ ↦ Iff.rfl⟩

theorem farApart : Relates .farApart (fun a b ↦ .constraint (.apart a.atom b.atom 5))
    fun m n ↦ 5 ≤ |m - n| where
  cells _ _ := rfl
  short _ _ := rfl
  readable _ _ := trivial
  reads _ _ := rfl
  demands value total a b := by rw [le_abs, neg_sub, Item.Holds]

theorem dotted (relation : DotRelation) : Relates (.dotted relation)
    (fun a b ↦ .constraint (.related relation.predicate.toList a.atom b.atom))
    fun m n ↦ relation.Holds m n :=
  ⟨fun _ _ ↦ rfl, fun _ _ ↦ rfl, fun _ _ ↦ trivial, fun _ _ ↦ rfl, fun _ _ _ _ ↦ Iff.rfl⟩

variable {item : Cell → Cell → Item} {sentence : Cell → Cell → Sentence} {value : Assignment}
  {total : Int}

/-- What the items of one group demand. The induction is on the cells, with a step for each two
neighbours. -/
theorem hold_neighbours (h : Relates item sentence relation) (cells : List Cell) :
    Items.Hold value total ((neighbours cells).map fun (a, b) ↦ item a b) ↔
      AreRelated relation (cells.map value) := by
  rw [← isChain_iff_areRelated]
  induction cells with
  | nil => simp [neighbours, Items.Hold]
  | cons a cells ih =>
    cases cells with
    | nil => simp [neighbours, Items.Hold]
    | cons b cells =>
      have hcons : neighbours (a :: b :: cells) = (a, b) :: neighbours (b :: cells) := rfl
      rw [hcons, List.map_cons, List.map_cons, List.map_cons, List.isChain_cons_cons,
        ← h.demands value total a b, ← List.map_cons, ← ih]
      exact List.forall_mem_cons

theorem mem_items (h : Relates item sentence relation) {groups : List Group} {other : Item}
    (hother : other ∈ items item groups) : other.IsReadable ∧ other.isShort = true ∧
      ∀ cell ∈ other.cells, cell ∈ groups.flatMap Group.cells := by
  obtain ⟨group, hgroup, hother⟩ := List.mem_flatMap.1 hother
  obtain ⟨⟨a, b⟩, hpair, rfl⟩ := List.mem_map.1 hother
  refine ⟨h.readable a b, h.short a b, fun cell hcell ↦ subset_cells hgroup ?_⟩
  obtain ⟨ha, hb⟩ := mem_of_mem_neighbours hpair
  simp only [h.cells, List.mem_cons, List.not_mem_nil, or_false] at hcell
  obtain rfl | rfl := hcell
  · exact ha
  · exact hb

theorem sentences_items (h : Relates item sentence relation) (groups : List Group) :
    (items item groups).filterMap Item.sentence? =
      groups.flatMap fun group ↦ (neighbours group.cells).map fun (a, b) ↦ sentence a b := by
  rw [items, List.filterMap_flatMap]
  congr 1
  funext group
  rw [List.filterMap_map, ← List.filterMap_eq_map]
  congr 1
  funext pair
  exact h.reads pair.1 pair.2

end Relates

/-! ## Texts -/

/-- What the predicates of the dots stand for is what the fragments of these rules declare. -/
abbrev meaning (value : Assignment) (total : Int) : Interpretation :=
  .ofRules [Standard.whiteDot, Standard.blackDot] value total

/-- A generator that writes one sentence for each two neighbours of a group, in order, and so
demands something of the digits along every group. -/
structure SpeaksOfNeighbours (drafter : Drafter) (sentence : Cell → Cell → Sentence)
    (demand : List Int → Prop) : Prop where
  /-- Text is written unless the place of a cell is too long to be. -/
  answers : ∀ groups placements grid,
    (∃ emission, drafter.toGenerator groups placements grid = .ok emission) ∨
      drafter.toGenerator groups placements grid = .error .unwritable ∧
        ∃ cell ∈ groups.flatMap Group.cells, isWritablePlace cell.row cell.col = false
  /-- There is no other sentence than those for neighbours, and no warning. -/
  sentences : ∀ groups placements grid emission,
    drafter.toGenerator groups placements grid = .ok emission → emission.warnings = [] ∧
      sentences? emission.text = some (groups.flatMap fun group ↦
        (neighbours group.cells).map fun (a, b) ↦ sentence a b)
  means : ∀ groups placements grid emission,
    drafter.toGenerator groups placements grid = .ok emission → ∀ value total,
      Says (meaning value total) emission.text ↔
        ∀ group ∈ groups, demand (group.cells.map value)

theorem speaksOfNeighbours {item : Cell → Cell → Item} {sentence : Cell → Cell → Sentence}
    (h : Relates item sentence relation) :
    SpeaksOfNeighbours (draft item) sentence (AreRelated relation) := by
  have hanswer (groups : List Group) (placements : List Placement) (grid : Grid) :
      (draft item).toGenerator groups placements grid = .ok ⟨Items.text (items item groups), []⟩ ∨
        (draft item).toGenerator groups placements grid = .error .unwritable ∧
          ∃ cell ∈ groups.flatMap Group.cells, isWritablePlace cell.row cell.col = false :=
    @Draft.emission_cases ⟨items item groups, []⟩ _ (fun _ hitem ↦ (h.mem_items hitem).2.2)
      fun _ hitem ↦ (h.mem_items hitem).2.1
  have htext {groups : List Group} {placements : List Placement} {grid : Grid} {emission : Emission}
      (hemission : (draft item).toGenerator groups placements grid = .ok emission) :
      emission = ⟨Items.text (items item groups), []⟩ := by
    obtain hok | ⟨herror, _⟩ := hanswer groups placements grid
    · exact Except.ok.inj (hemission.symm.trans hok)
    · cases hemission.symm.trans herror
  have hreadable (groups : List Group) : ∀ other ∈ items item groups, other.IsReadable :=
    fun _ hother ↦ (h.mem_items hother).1
  refine ⟨fun groups placements grid ↦ (hanswer groups placements grid).imp_left fun hok ↦
    ⟨_, hok⟩, ?_, ?_⟩
  · intro groups placements grid emission hemission
    obtain rfl := htext hemission
    exact ⟨rfl, by rw [sentences?_text (hreadable groups), h.sentences_items]⟩
  · intro groups placements grid emission hemission value total
    obtain rfl := htext hemission
    rw [meaning, Interpretation.ofRules_dots, says_text (hreadable groups), items,
      Items.hold_flatMap]
    exact forall₂_congr fun group _ ↦ h.hold_neighbours group.cells

/-! ## Direction -/

/-- Any groups may be reversed without a change of what the text says. -/
def KeepsMeaning (drafter : Drafter) : Prop :=
  ∀ groups others, List.Forall₂ (fun group other ↦ other = group ∨ other = group.reversed)
    groups others → ∀ placements grid emission other,
      drafter.toGenerator groups placements grid = .ok emission →
      drafter.toGenerator others placements grid = .ok other → ∀ value total,
        Says (meaning value total) other.text ↔ Says (meaning value total) emission.text

/-- No digits are as the text says along a group of two cells or more in both directions, though
there are digits that are as it says if the cells are distinct. -/
def HasDirection (drafter : Drafter) : Prop :=
  ∀ group : Group, 2 ≤ group.cells.length → ∀ placements grid emission other,
    drafter.toGenerator [group] placements grid = .ok emission →
    drafter.toGenerator [group.reversed] placements grid = .ok other →
      (∀ value total, Says (meaning value total) emission.text →
        ¬Says (meaning value total) other.text) ∧
      (group.cells.Nodup → ∃ value, ∀ total, Says (meaning value total) emission.text)

theorem keepsMeaning {drafter : Drafter} {sentence : Cell → Cell → Sentence}
    (h : SpeaksOfNeighbours drafter sentence (AreRelated relation))
    (hsymm : ∀ m n, relation m n → relation n m) : KeepsMeaning drafter := by
  intro groups others hothers placements grid emission other hemission hother value total
  rw [h.means _ _ _ _ hemission, h.means _ _ _ _ hother]
  clear hemission hother
  induction hothers with
  | nil => simp
  | cons hgroup _ ih =>
    rw [List.forall_mem_cons, List.forall_mem_cons, ih]
    refine and_congr_left fun _ ↦ ?_
    obtain rfl | rfl := hgroup
    · exact Iff.rfl
    · rw [Group.reversed, List.map_reverse, areRelated_reverse hsymm]

theorem hasDirection {drafter : Drafter} {sentence : Cell → Cell → Sentence}
    (h : SpeaksOfNeighbours drafter sentence AreIncreasing) : HasDirection drafter := by
  intro group hlength placements grid emission other hemission hother
  simp only [h.means _ _ _ _ hemission, h.means _ _ _ _ hother, List.forall_mem_singleton]
  constructor
  · intro value _ hup
    rw [Group.reversed, List.map_reverse]
    exact not_areIncreasing_reverse (by simpa using hlength) hup
  · intro hnodup
    obtain ⟨value, hvalue⟩ := exists_areIncreasing hnodup
    exact ⟨value, fun _ ↦ hvalue⟩

/-! ## The four rules -/

/-- The rules on neighbours write one sentence for each two neighbours of a group, in order and none
across two groups. Digits along a thermometer are less than all later ones. Neighbours on a whisper
are at least five apart, across a white dot they are one apart, and across a black dot one is twice
the other; any group may be reversed for these, while a thermometer has a direction. -/
theorem says_neighbours :
    SpeaksOfNeighbours thermometer
      (fun a b ↦ .constraint (.less [⟨1, a.atom⟩] [⟨1, b.atom⟩])) AreIncreasing ∧
    SpeaksOfNeighbours germanWhisper
      (fun a b ↦ .constraint (.apart a.atom b.atom 5)) (AreRelated fun m n ↦ 5 ≤ |m - n|) ∧
    SpeaksOfNeighbours whiteDot
      (fun a b ↦ .constraint (.related "kropki_consecutive".toList a.atom b.atom))
      (AreRelated fun m n ↦ |m - n| = 1) ∧
    SpeaksOfNeighbours blackDot
      (fun a b ↦ .constraint (.related "kropki_ratio".toList a.atom b.atom))
      (AreRelated fun m n ↦ m = 2 * n ∨ n = 2 * m) ∧
    (∀ cells : List Cell, (neighbours cells).length = cells.length - 1 ∧
      ∀ i, (h : i + 1 < cells.length) → (neighbours cells)[i]? = some (cells[i], cells[i + 1])) ∧
    HasDirection thermometer ∧
    KeepsMeaning germanWhisper ∧ KeepsMeaning whiteDot ∧ KeepsMeaning blackDot := by
  have hthermometer := speaksOfNeighbours Relates.less
  have hincreasing : AreRelated (· < ·) = AreIncreasing := funext fun _ ↦ propext areRelated_lt
  rw [hincreasing] at hthermometer
  have hwhisper := speaksOfNeighbours Relates.farApart
  have hwhite := speaksOfNeighbours (Relates.dotted .consecutive)
  simp only [DotRelation.holds_consecutive] at hwhite
  have hblack := speaksOfNeighbours (Relates.dotted .double)
  refine ⟨hthermometer, hwhisper, hwhite, hblack,
    fun cells ↦ ⟨length_neighbours cells, fun i hi ↦ neighbours_getElem? cells hi⟩,
    hasDirection hthermometer, keepsMeaning hwhisper ?_, keepsMeaning hwhite ?_,
    keepsMeaning hblack ?_⟩
  · intro m n h
    rwa [abs_sub_comm]
  · intro m n h
    rwa [abs_sub_comm]
  · intro m n h
    exact h.symm

end Line

end GridPuzzle
