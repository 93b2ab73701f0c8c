import GridPuzzle.Document.Code
import GridPuzzle.Naming
import GridPuzzle.Proofs.Text.Char
import GridPuzzle.Proofs.VariableKind

/-!
# The names a model declares

In the emitted language every item ends with a semicolon. A constraint, an inclusion, an output and
the request for a solution declare nothing; a predicate or test declares the name behind its
keyword; what else has a colon declares the name behind the first one. This reading of a model is
that of the language: it does not depend on where lines start, nor on how a type is written.
-/

namespace GridPuzzle.Document

/-- The keywords of items that declare nothing. -/
def silentKeywords : List String := ["constraint", "include", "solve", "output"]

/-- The keywords that stand directly before the name that is declared. -/
def namingKeywords : List String := ["predicate", "test"]

/-- The name at the start of a text, white space before it aside. -/
def leadingName (s : List Char) : List Char := (Text.trimStart s).takeWhile Text.isIdentifierChar

/-- The name that an item declares. -/
def itemName? (item : List Char) : Option (List Char) :=
  let keyword := String.ofList (leadingName item)
  if silentKeywords.contains keyword then none
  else if namingKeywords.contains keyword then
    some (leadingName ((Text.trimStart item).dropWhile Text.isIdentifierChar))
  else
    match item.dropWhile (· != ':') with
    | [] => none
    | _ :: behind => some (leadingName behind)

/-- The names that the items of a model declare, in order. -/
def topLevelNames (code : List Char) : List (List Char) := (code.splitOn ';').filterMap itemName?

/-- Code of whole items that declare the given names, whatever stands behind it. -/
def Introduces (code : List Char) (names : List (List Char)) : Prop :=
  ∀ rest, topLevelNames (code ++ rest) = names ++ topLevelNames rest

theorem Introduces.nil : Introduces [] [] := fun _ ↦ rfl

theorem Introduces.append {first second : List Char} {names more : List (List Char)}
    (h₁ : Introduces first names) (h₂ : Introduces second more) :
    Introduces (first ++ second) (names ++ more) := by
  intro rest
  rw [List.append_assoc, h₁, h₂, List.append_assoc]

/-- White space between items declares nothing. -/
theorem itemName?_cons_of_isBlank {c : Char} (hblank : Text.isBlank c = true) (hcolon : c ≠ ':')
    (item : List Char) : itemName? (c :: item) = itemName? item := by
  have htrim : Text.trimStart (c :: item) = Text.trimStart item := by simp [Text.trimStart, hblank]
  have hdrop : (c :: item).dropWhile (· != ':') = item.dropWhile (· != ':') := by simp [hcolon]
  unfold itemName? leadingName
  rw [htrim, hdrop]

theorem Introduces.break : Introduces ['\n'] [] := by
  intro rest
  obtain ⟨item, items, hsplit⟩ := List.exists_cons_of_ne_nil (List.splitOn_ne_nil ';' rest)
  have hcons : ('\n' :: rest).splitOn ';' = ('\n' :: item) :: items := by
    rw [List.splitOn_cons_eq_if_modifyHead, hsplit]
    rfl
  have hname := itemName?_cons_of_isBlank (by decide : Text.isBlank '\n' = true) (by decide) item
  rw [List.singleton_append, topLevelNames, hcons, topLevelNames, hsplit]
  simp [List.filterMap_cons, hname]

theorem Introduces.join {first second : List Char} {names more : List (List Char)}
    (h₁ : Introduces first names) (h₂ : Introduces second more) :
    Introduces (first ++ '\n' :: second) (names ++ more) :=
  h₁.append (Introduces.break.append h₂)

/-- An item with its semicolon. -/
theorem Introduces.item {body : List Char} (hbody : ';' ∉ body) :
    Introduces (body ++ [';']) (itemName? body).toList := by
  intro rest
  rw [List.append_assoc, List.singleton_append, topLevelNames,
    List.splitOn_append_cons_self_of_not_mem hbody, List.filterMap_cons, topLevelNames]
  cases itemName? body <;> rfl

/-! ## Items -/

theorem leadingName_append {name : List Char} (hname : isPlainIdentifier name = true)
    {behind : List Char} (hbehind : behind.head?.all (!Text.isIdentifierChar ·) = true) :
    leadingName (name ++ behind) = name := by
  have hchars := isIdentifierChar_of_plain hname
  have htake : behind.takeWhile Text.isIdentifierChar = [] := by
    cases behind with
    | nil => rfl
    | cons c rest => simpa using hbehind
  unfold leadingName Text.trimStart
  cases name with
  | nil => simp [isPlainIdentifier] at hname
  | cons c rest =>
    have hblank := Text.isBlank_of_isIdentifierChar (hchars c List.mem_cons_self)
    rw [List.cons_append, List.dropWhile_cons_of_neg (by simp [hblank]), ← List.cons_append,
      List.takeWhile_append_of_pos hchars, htake, List.append_nil]

theorem leadingName_cons_of_isBlank {c : Char} (hc : Text.isBlank c = true) (s : List Char) :
    leadingName (c :: s) = leadingName s := by
  simp [leadingName, Text.trimStart, hc]

/-- A constraint declares nothing. -/
theorem itemName?_constraint (body : List Char) :
    itemName? ("constraint ".toList ++ body) = none := by
  have hkeyword : leadingName ("constraint ".toList ++ body) = "constraint".toList := rfl
  unfold itemName?
  rw [hkeyword]
  rfl

/-- A declaration declares the name behind the first colon. -/
theorem itemName?_declaration {type behind : List Char} (htype : ':' ∉ type)
    (hkeyword : String.ofList (leadingName (type ++ ':' :: behind)) ∉
      silentKeywords ++ namingKeywords) :
    itemName? (type ++ ':' :: behind) = some (leadingName behind) := by
  have hdrop : (type ++ ':' :: behind).dropWhile (· != ':') = ':' :: behind := by
    rw [List.dropWhile_append_of_pos fun c hc ↦ bne_iff_ne.2 (ne_of_mem_of_not_mem hc htype)]
    simp
  have hsilent : silentKeywords.contains (String.ofList (leadingName (type ++ ':' :: behind))) =
      false := by
    simpa using fun hmem ↦ hkeyword (List.mem_append_left _ hmem)
  have hnaming : namingKeywords.contains (String.ofList (leadingName (type ++ ':' :: behind))) =
      false := by
    simpa using fun hmem ↦ hkeyword (List.mem_append_right _ hmem)
  unfold itemName?
  simp only [hsilent, hnaming, hdrop, Bool.false_eq_true, if_false]

end GridPuzzle.Document
