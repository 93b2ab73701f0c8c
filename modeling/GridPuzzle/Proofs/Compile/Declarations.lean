import GridPuzzle.Compile.Declarations
import GridPuzzle.Proofs.Constraint.Body

/-!
# Declarations of arrays

The section of a grid declares its four names, and the check of a document finds all of them. The
section of a variable kind declares the kind's array without the line feed that may stand behind it.
The check finds this declaration if there is no such line feed and the type of the array is written
without a minus sign; otherwise it finds nothing.
-/

namespace GridPuzzle

namespace VariableKind

/-- The name that the declaration of the kind's array declares. -/
def identifier (kind : VariableKind) : List Char := dropFinalBreak kind.array.toList

end VariableKind

/-- Whether the values of a domain are written without a minus sign. -/
def Domain.isUnsigned : Domain → Bool
  | int min _ _ => decide (0 ≤ min)
  | bool => true

/-- The names that the check of a document finds in the section of a variable kind. -/
def VariableKind.found (kind : VariableKind) : List (List Char) :=
  if kind.array.toList = kind.identifier ∧ kind.domain.isUnsigned = true then [kind.identifier]
  else []

open Document
open CellReference (Refers)

variable {good : CellReference → Prop}

/-! ## Arrays over the grid -/

/-- What stands before the type of an array over the grid. -/
def arrayStart : List Char :=
  ['a', 'r', 'r', 'a', 'y', '[', '1', '.', '.', 'r', 'o', 'w', 's', ',', ' ', '1', '.', '.', 'c',
    'o', 'l', 's', ']', ' ', 'o', 'f', ' ']

theorem refers_arrayStart : Refers good arrayStart :=
  have hname : ['a', 'r', 'r', 'a', 'y'].all Text.isIdentifierChar = true := by decide
  have hinert : CellReference.isInert (arrayStart.drop 6) = true := by decide
  .of_name (List.all_eq_true.1 hname) (fun _ _ ↦ rfl) (.of_isInert hinert)

theorem behindItemType?_arrayStart (s : List Char) :
    behindItemType? (arrayStart ++ s) = behindRun? isTypeChar ':' s := by
  have hbehind : behind? "array[".toList (skipBlanks (arrayStart ++ s)) =
      some (arrayStart.drop 6 ++ s) := by
    rw [String.toList_ofList]
    rfl
  unfold behindItemType?
  rw [hbehind]
  rfl

theorem predicate?_arrayStart (s : List Char) : predicate? (arrayStart ++ s) = none := rfl

theorem isWord_of_plain {name : List Char} (h : isPlainIdentifier name = true) :
    ∀ c ∈ name, Text.isWord c = true := fun c hc ↦
  Text.isWord_of_isIdentifierChar (isIdentifierChar_of_plain h c hc)

theorem nameOf?_append {name : List Char} (hname : isPlainIdentifier name = true)
    {tail : List Char} (htail : tail.head?.all (!Text.isWord ·) = true) :
    nameOf? (name ++ tail) = some (name, tail) := by
  have hword := isWord_of_plain hname
  have htake : tail.takeWhile Text.isWord = [] := by
    cases tail with
    | nil => rfl
    | cons c rest => simpa using htail
  have hdrop : tail.dropWhile Text.isWord = tail := by
    cases tail with
    | nil => rfl
    | cons c rest =>
      have hc : Text.isWord c = false := by simpa using htail
      simp [hc]
  cases name with
  | nil => simp [isPlainIdentifier] at hname
  | cons c rest =>
    have hletter : Text.isAsciiLetter c = true := (Bool.and_eq_true_iff.1 hname).1
    have hrest : ∀ d ∈ rest, Text.isWord d = true := fun d hd ↦
      hword d (List.mem_cons_of_mem c hd)
    rw [List.cons_append, nameOf?, if_pos hletter, List.takeWhile_append_of_pos hrest,
      List.dropWhile_append_of_pos hrest, htake, hdrop, List.append_nil]

/-- An item whose type is followed by a name and something behind it. -/
theorem item?_of_behindItemType? {line name : List Char} (hname : isPlainIdentifier name = true)
    {tail : List Char} (htail : tail.head?.all (!Text.isWord ·) = true)
    (h : behindItemType? line = some (' ' :: (name ++ tail))) :
    item? line = match skipBlanks tail with
      | c :: rest => if c == '=' || c == ';' then some (name, rest) else none
      | [] => none := by
  have hskip : skipBlanks (' ' :: (name ++ tail)) = name ++ tail := by
    cases name with
    | nil => simp [isPlainIdentifier] at hname
    | cons c rest =>
      have hword := isWord_of_plain hname c List.mem_cons_self
      have hblank : Text.isSpaceOrTab c = false := by
        by_contra hspace
        simp only [Text.isSpaceOrTab, Bool.not_eq_false, Bool.or_eq_true, beq_iff_eq] at hspace
        obtain rfl | rfl := hspace <;> exact absurd hword (by decide)
      have hspace : Text.isSpaceOrTab ' ' = true := by decide
      simp [skipBlanks, hblank, hspace]
  cases hrest : skipBlanks tail with
  | nil => simp [item?, h, hskip, nameOf?_append hname htail, hrest]
  | cons c rest => simp [item?, h, hskip, nameOf?_append hname htail, hrest]

/-- The declaration of an array over the grid up to its name. -/
def declarationLine (type name : List Char) : List Char :=
  arrayStart ++ (type ++ ':' :: ' ' :: name)

theorem isBody_of_plain {name : List Char} (hname : isPlainIdentifier name = true) :
    IsBody good name := by
  have hchars := isIdentifierChar_of_plain hname
  exact .of_no_bracket (fun c hc ↦ isBodyChar_of_isIdentifierChar (hchars c hc))
    fun hmem ↦ absurd (hchars '[' hmem) (by decide)

section Declaration

variable {type name : List Char}

theorem isLine_declarationLine (htype : ∀ c ∈ type, isBodyChar c = true)
    (hname : isPlainIdentifier name = true) : Text.IsLine (declarationLine type name) ∧
      '%' ∉ declarationLine type name ∧ ';' ∉ declarationLine type name ∧
        '\n' ∉ declarationLine type name := by
  have hchars : ∀ c ∈ declarationLine type name,
      Text.isLineBreak c = false ∧ c ≠ '%' ∧ c ≠ ';' := by
    have hbody (c : Char) (h : isBodyChar c = true) :
        Text.isLineBreak c = false ∧ c ≠ '%' ∧ c ≠ ';' := by
      simp only [isBodyChar, Bool.and_eq_true, Bool.not_eq_true', bne_iff_ne] at h
      exact ⟨h.1.1.1, h.1.1.2, h.2⟩
    have hstart : arrayStart.all isBodyChar = true := by decide
    intro c hc
    simp only [declarationLine, List.mem_append, List.mem_cons] at hc
    obtain hc | hc | rfl | rfl | hc := hc
    · exact hbody c (List.all_eq_true.1 hstart c hc)
    · exact hbody c (htype c hc)
    · decide
    · decide
    · exact hbody c (isBodyChar_of_isIdentifierChar (isIdentifierChar_of_plain hname c hc))
  exact ⟨fun c hc ↦ (hchars c hc).1, fun hmem ↦ (hchars _ hmem).2.1 rfl,
    fun hmem ↦ (hchars _ hmem).2.2 rfl, fun hmem ↦ Bool.noConfusion (hchars _ hmem).1⟩

theorem refers_declarationLine (htype : IsBody good type) (hname : isPlainIdentifier name = true)
    {c : Char} (hc : Text.isIdentifierChar c = false) (hbracket : c ≠ '[') :
    Refers good (declarationLine type name ++ [c]) := by
  have hrest := (@isBody_of_plain good _ hname).refers c hc hbracket
  have hline := refers_arrayStart.append
    ((htype.refers ':' (by decide) (by decide)).append (.cons (c := ' ') (by decide) hrest))
  simpa [declarationLine] using hline

theorem itemName?_declarationLine (htype : ':' ∉ type) (hname : isPlainIdentifier name = true)
    (behind : List Char) (hbehind : behind.head?.all (!Text.isIdentifierChar ·) = true) :
    itemName? (declarationLine type name ++ behind) = some name := by
  have hstart : ':' ∉ arrayStart := by decide
  have htext : declarationLine type name ++ behind =
      (arrayStart ++ type) ++ ':' :: (' ' :: (name ++ behind)) := by simp [declarationLine]
  have hkeyword (s : List Char) : leadingName (arrayStart ++ s) = ['a', 'r', 'r', 'a', 'y'] := rfl
  have hleading : leadingName (' ' :: (name ++ behind)) = name := by
    rw [leadingName_cons_of_isBlank (by decide), leadingName_append hname hbehind]
  rw [htext, itemName?_declaration (by simp [hstart, htype]), hleading]
  rw [List.append_assoc, hkeyword]
  simp [silentKeywords, namingKeywords, ← String.toList_inj]

/-- A declaration of which the check reads the type ends in the name and the semicolon. -/
theorem declares_declarationLine (hchars : ∀ c ∈ type, isTypeChar c = true) (hne : type ≠ [])
    (hbody : ∀ c ∈ type, isBodyChar c = true) (hname : isPlainIdentifier name = true) :
    Declares (declarationLine type name ++ [';']) [name] ∧
      Declares (declarationLine type name) [] := by
  obtain ⟨_, _, _, hbreak⟩ := isLine_declarationLine hbody hname
  have hcolon : isTypeChar ':' = false := by decide
  have hitem (tail : List Char) (htail : tail.head?.all (!Text.isWord ·) = true) :=
    @item?_of_behindItemType? (declarationLine type name ++ tail) name hname tail htail (by
      rw [declarationLine, List.append_assoc, behindItemType?_arrayStart, List.append_assoc,
        List.cons_append, behindRun?_append_cons hchars hcolon hne, if_pos rfl, List.cons_append])
  constructor
  · refine @Declares.of_item _ _ [] (by simp [hbreak]) (by simp) fun tail _ ↦ ?_
    rw [List.append_assoc, hitem _ rfl]
    rfl
  · refine .of_none hbreak (fun tail htail ↦ ?_) fun tail _ ↦ ?_
    · obtain rfl | ⟨rest, rfl⟩ := htail
      · rw [hitem _ rfl]
        rfl
      · rw [hitem _ rfl]
        rfl
    · rw [declarationLine, List.append_assoc, predicate?_arrayStart]

/-- A declaration with a type that the check does not read is not found. -/
theorem declares_nil_declarationLine {behind : List Char}
    (hunread : ∀ s, behindRun? isTypeChar ':' (type ++ s) = none)
    (hline : '\n' ∉ declarationLine type name ++ behind) :
    Declares (declarationLine type name ++ behind) [] := by
  have htext (tail : List Char) : declarationLine type name ++ behind ++ tail =
      arrayStart ++ (type ++ (':' :: ' ' :: name ++ behind ++ tail)) := by
    simp [declarationLine]
  refine .of_none hline (fun tail _ ↦ ?_) fun tail _ ↦ ?_
  · rw [htext]
    unfold item?
    rw [behindItemType?_arrayStart, hunread]
    rfl
  · rw [htext, predicate?_arrayStart]

/-- A declaration with its semicolon. -/
theorem emits_declarationLine {found : List (List Char)} (htype : IsBody good type)
    (hname : isPlainIdentifier name = true)
    (hfinds : Declares (declarationLine type name ++ [';']) found) :
    Emits good (declarationLine type name ++ [';']) found [name] := by
  obtain ⟨hline, hpercent, hsemicolon, _⟩ := isLine_declarationLine htype.chars hname
  obtain ⟨_, _, hcolon, _⟩ := isLine_of_isBodyChar htype.chars
  have hitem := Introduces.item hsemicolon
  have hitemName := itemName?_declarationLine hcolon hname [] rfl
  rw [List.append_nil] at hitemName
  rw [hitemName] at hitem
  refine .line ?_ (by simp [hpercent]) ⟨?_, hfinds, hitem⟩
  · intro c hc
    obtain hc | hc := List.mem_append.1 hc
    · exact hline c hc
    · obtain rfl := List.mem_singleton.1 hc
      decide
  · exact refers_declarationLine htype hname (by decide) (by decide)

/-- A declaration with its semicolon on a line of its own. -/
theorem emits_declarationLine_break {found : List (List Char)} (htype : IsBody good type)
    (hname : isPlainIdentifier name = true) (hfinds : Declares (declarationLine type name) found) :
    Emits good (declarationLine type name ++ ['\n', ';']) found [name] := by
  obtain ⟨hline, hpercent, hsemicolon, _⟩ := isLine_declarationLine htype.chars hname
  obtain ⟨_, _, hcolon, _⟩ := isLine_of_isBodyChar htype.chars
  have hitem := @Introduces.item (declarationLine type name ++ ['\n']) (by simp [hsemicolon])
  have hitemName := itemName?_declarationLine hcolon hname ['\n'] (by decide)
  rw [hitemName, List.append_assoc] at hitem
  have hsecond : Declares [';'] [] := .of_head (by decide) (by decide) rfl
  have hrefers := (@refers_declarationLine good type name htype hname '\n' (by decide)
    (by decide)).append (.of_isInert (s := [';']) (by decide))
  refine .two_lines ⟨hline, hpercent⟩ (by decide) ⟨?_, ?_, hitem⟩
  · simpa using hrefers
  · simpa using hfinds.append hsecond

end Declaration

/-! ## Variable kinds -/

def Domain.typeText (domain : Domain) : List Char := ['v', 'a', 'r', ' '] ++ domain.text.toList

theorem Domain.toList_text_int {min max : Int} (h : min ≤ max) :
    (Domain.int min max h).text.toList =
      (Text.intText min).toList ++ '.' :: '.' :: (Text.intText max).toList := by
  rw [Domain.text, String.toList_append, String.toList_append, String.toList_ofList]
  simp

theorem Domain.isBody_typeText (domain : Domain) : IsBody good domain.typeText := by
  have htext : IsBody good domain.text.toList := by
    cases domain with
    | int min max h =>
      rw [toList_text_int]
      exact (IsBody.intText min).append_cons (by decide) (by decide) (by decide)
        (.cons (by decide) (by decide) (.intText max))
    | bool =>
      rw [Domain.text, String.toList_ofList]
      exact .fixed (by decide)
  have hvar : IsBody good ['v', 'a', 'r'] := .fixed (by decide)
  exact hvar.append_cons (c := ' ') (by decide) (by decide) (by decide) htext

theorem isTypeChar_intText {n : Int} (h : 0 ≤ n) :
    ∀ c ∈ (Text.intText n).toList, isTypeChar c = true := by
  intro c hc
  obtain ⟨m, rfl⟩ := Int.eq_ofNat_of_zero_le h
  rw [Text.toList_intText_natCast] at hc
  have hdigit := Text.isAsciiDigit_of_mem_decimal m c hc
  have hword := Text.isWord_of_isIdentifierChar (Text.isIdentifierChar_of_isAsciiDigit hdigit)
  simp [isTypeChar, hword]

theorem Domain.isTypeChar_typeText {domain : Domain} (h : domain.isUnsigned = true) :
    ∀ c ∈ domain.typeText, isTypeChar c = true := by
  have htext : ∀ c ∈ domain.text.toList, isTypeChar c = true := by
    cases domain with
    | int min max hle =>
      have hmin : 0 ≤ min := by simpa [isUnsigned] using h
      rw [toList_text_int]
      intro c hc
      simp only [List.mem_append, List.mem_cons] at hc
      obtain hc | rfl | rfl | hc := hc
      · exact isTypeChar_intText hmin c hc
      · decide
      · decide
      · exact isTypeChar_intText (hmin.trans hle) c hc
    | bool =>
      have hbool : ['b', 'o', 'o', 'l'].all isTypeChar = true := by decide
      rw [Domain.text, String.toList_ofList]
      exact List.all_eq_true.1 hbool
  have hvar : ['v', 'a', 'r', ' '].all isTypeChar = true := by decide
  intro c hc
  obtain hc | hc := List.mem_append.1 hc
  · exact List.all_eq_true.1 hvar c hc
  · exact htext c hc

/-- The check does not read a type with a minus sign. -/
theorem Domain.behindRun?_typeText {domain : Domain} (h : domain.isUnsigned = false)
    (s : List Char) : behindRun? isTypeChar ':' (domain.typeText ++ s) = none := by
  cases domain with
  | int min max hle =>
    have hmin : min < 0 := by simpa [isUnsigned] using h
    have htext : (Domain.int min max hle).typeText ++ s = ['v', 'a', 'r', ' '] ++ '-' ::
        (Text.decimal min.natAbs ++ '.' :: '.' :: (Text.intText max).toList ++ s) := by
      rw [typeText, toList_text_int, Text.toList_intText_neg hmin]
      simp
    have hvar : ['v', 'a', 'r', ' '].all isTypeChar = true := by decide
    rw [htext, behindRun?_append_cons (List.all_eq_true.1 hvar) (by decide) (by decide)]
    rfl
  | bool => simp [isUnsigned] at h

theorem VariableKind.identifier_cases (kind : VariableKind) :
    isPlainIdentifier kind.identifier = true ∧
      (kind.array.toList = kind.identifier ∨ kind.array.toList = kind.identifier ++ ['\n']) := by
  have hplain (s : List Char) (h : isPlainIdentifier s = true) : dropFinalBreak s = s := by
    obtain heq | heq := dropFinalBreak_cases s
    · exact heq
    · have hmem : '\n' ∈ s := by
        rw [heq]
        simp
      exact absurd (isIdentifierChar_of_plain h _ hmem) (by decide)
  unfold identifier
  obtain h | ⟨s, hs, heq⟩ := kind.array_cases
  · rw [hplain _ h]
    exact ⟨h, .inl rfl⟩
  · have hdrop : dropFinalBreak (s ++ ['\n']) = s := by simp [dropFinalBreak]
    rw [heq, hdrop]
    exact ⟨hs, .inr rfl⟩

theorem toList_declareKind (kind : VariableKind) : (declareKind kind).toList =
    (comment ("variable kind: " ++ kind.name)).toList ++ '\n' ::
      (arrayStart ++ (kind.domain.typeText ++ ':' :: ' ' :: (kind.array.toList ++ [';']))) := by
  have hstart : "array[1..rows, 1..cols] of var ".toList = arrayStart ++ ['v', 'a', 'r', ' '] :=
    String.toList_ofList
  rw [declareKind, Text.toList_unlines_cons, Text.unlines_singleton]
  simp only [String.toList_append, hstart]
  simp [Domain.typeText]

/-- The section of a variable kind declares its array. -/
theorem emits_declareKind (kind : VariableKind) :
    Emits good (declareKind kind).toList kind.found [kind.identifier] := by
  obtain ⟨hname, hcases⟩ := kind.identifier_cases
  have htype := @Domain.isBody_typeText good kind.domain
  obtain ⟨_, _, _, hbreak⟩ := isLine_declarationLine htype.chars hname
  have hread (h : kind.domain.isUnsigned = true) :=
    declares_declarationLine (Domain.isTypeChar_typeText h) (by simp [Domain.typeText])
      htype.chars hname
  have hunread (h : kind.domain.isUnsigned = false) (behind : List Char)
      (hbehind : '\n' ∉ behind) :=
    @declares_nil_declarationLine _ kind.identifier behind (Domain.behindRun?_typeText h)
      (by simp [hbreak, hbehind])
  rw [toList_declareKind]
  have hcomment := @Emits.comment good ("variable kind: " ++ kind.name)
  obtain harray | harray := hcases
  · have hfinds : Declares (declarationLine kind.domain.typeText kind.identifier ++ [';'])
        kind.found := by
      cases hunsigned : kind.domain.isUnsigned with
      | true => simpa [VariableKind.found, harray, hunsigned] using (hread hunsigned).1
      | false => simpa [VariableKind.found, hunsigned] using hunread hunsigned [';'] (by decide)
    have hunder := hcomment.under (emits_declarationLine htype hname hfinds)
    simpa [declarationLine, harray] using hunder
  · have hne : kind.array.toList ≠ kind.identifier := by simp [harray]
    have hfinds : Declares (declarationLine kind.domain.typeText kind.identifier) kind.found := by
      cases hunsigned : kind.domain.isUnsigned with
      | true => simpa [VariableKind.found, hne] using (hread hunsigned).2
      | false => simpa [VariableKind.found, hne] using hunread hunsigned [] (by simp)
    have hunder := hcomment.under (emits_declarationLine_break htype hname hfinds)
    simpa [declarationLine, harray] using hunder

/-! ## The grid -/

theorem isBody_matrixText (matrix : List (List Int)) : IsBody good (matrixText matrix).toList := by
  have hrow (row : List Int) : IsBody good (Text.join ", " (row.map Text.intText)).toList := by
    refine .join (by decide) fun p hp ↦ ?_
    obtain ⟨n, _, rfl⟩ := List.mem_map.1 hp
    exact .intText n
  have hrows : IsBody good (Text.join " | " (matrix.map fun row ↦
      Text.join ", " (row.map Text.intText))).toList := by
    refine .join (by decide) fun p hp ↦ ?_
    obtain ⟨row, _, rfl⟩ := List.mem_map.1 hp
    exact hrow row
  have hclosing : IsBody good ['|', ']'] := .fixed (by decide)
  have hopening := IsBody.cons (c := '[') (by decide) (by decide)
    (.cons (c := '|') (by decide) (by decide) (.cons (c := ' ') (by decide) (by decide)
      (hrows.append_cons (c := ' ') (by decide) (by decide) (by decide) hclosing)))
  simpa [matrixText] using hopening

/-- The declaration of a number of the grid. -/
theorem emits_intDeclaration {keyword : String} {start name : List Char} {value : String}
    (hkeyword : keyword.toList = start)
    (hstart : start.all (fun c ↦ !Text.isLineBreak c && c != '%' && c != ';') = true)
    (hlength : 1 < start.length) (hrefers : Refers good start)
    (hitem : ∀ behind, item? (start ++ behind) = some (name, ' ' :: behind))
    (hname : ∀ behind, itemName? (start ++ behind) = some name) (h : IsBody good value.toList) :
    Emits good (keyword ++ value ++ ";").toList [name] [name] := by
  have hdeclaration := Emits.declaration hstart hlength hrefers hitem hname h
  simpa [hkeyword] using hdeclaration

/-- The section of a grid declares its four names. -/
theorem emits_declareGrid (grid : Grid) : Emits good (declareGrid grid).toList
    (gridNames.map String.toList) (gridNames.map String.toList) := by
  have hnumeral (n : Nat) : IsBody good (Text.natText n).toList := .intText n
  have hnames : gridNames.map String.toList = [['r', 'o', 'w', 's'], ['c', 'o', 'l', 's'],
      ['n', '_', 'r', 'e', 'g', 'i', 'o', 'n', 's'], ['r', 'e', 'g', 'i', 'o', 'n', 's']] := by
    simp [gridNames]
  have hregions : Refers good (arrayStart ++ ['i', 'n', 't', ':', ' ', 'r', 'e', 'g', 'i', 'o',
      'n', 's', ' ', '=', ' ']) := refers_arrayStart.append (.of_isInert (by decide))
  rw [hnames]
  refine EmitsAll.unlines (.cons_silent (.comment _) (.cons_name ?_ (.cons_name ?_
    (.cons_name ?_ (.cons_name ?_ .nil)))))
  · exact emits_intDeclaration String.toList_ofList (by decide) (by decide)
      (.of_isInert (by decide)) (fun _ ↦ rfl) (fun _ ↦ rfl) (hnumeral grid.rows)
  · exact emits_intDeclaration String.toList_ofList (by decide) (by decide)
      (.of_isInert (by decide)) (fun _ ↦ rfl) (fun _ ↦ rfl) (hnumeral grid.cols)
  · exact emits_intDeclaration String.toList_ofList (by decide) (by decide)
      (.of_isInert (by decide)) (fun _ ↦ rfl) (fun _ ↦ rfl) (hnumeral grid.regionCount)
  · exact emits_intDeclaration String.toList_ofList (by decide) (by decide)
      hregions (fun _ ↦ rfl) (fun _ ↦ rfl) (isBody_matrixText grid.emittedMap)

end GridPuzzle
