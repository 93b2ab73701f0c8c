import GridPuzzle.Proofs.Text.Padded

/-!
# The texts that are read as integers

A text is read as an integer if, without the white space around it, it is a numeral: a sign or none,
and digits of any script in groups with an underscore between them, no more of them than can be
read.
-/

namespace GridPuzzle.Text

/-- Digits in groups with single underscores between them, and the number that they denote. -/
def GroupsDenote (s : List Char) (n : Int) : Prop :=
  (∀ group ∈ s.splitOn '_', group ≠ []) ∧ DigitsDenote (s.filter (· != '_')) n ∧
    (s.filter (· != '_')).length ≤ maxDigits

/-- A text that stands for an integer: white space around it does not count, and there may be one
sign. -/
def StandsFor (s : List Char) (n : Int) : Prop :=
  ∃ before sign body behind, s = before ++ ((sign ++ body) ++ behind) ∧
    (∀ c ∈ before, isSpace c = true) ∧ (∀ c ∈ behind, isSpace c = true) ∧
    ((sign = ['-'] ∧ GroupsDenote body (-n)) ∨
      ((sign = [] ∨ sign = ['+']) ∧ GroupsDenote body n))

/-! ## Groups of digits -/

theorem digitValue?_underscore : digitValue? '_' = none := by decide +kernel

theorem splitOn_cons_of_ne {c : Char} (hc : c ≠ '_') (s : List Char) :
    (c :: s).splitOn '_' = (s.splitOn '_').modifyHead (c :: ·) := by
  have hne : (c == '_') = false := by simpa using hc
  rw [List.splitOn_eq_splitOnP, List.splitOnP_cons_eq_if_modifyHead, hne]
  rfl

theorem splitOn_cons_self (s : List Char) : ('_' :: s).splitOn '_' = [] :: s.splitOn '_' := by
  rw [List.splitOn_eq_splitOnP, List.splitOnP_cons_eq_if_modifyHead]
  rfl

/-- Where a digit goes before, the first group may be empty. -/
theorem digitRun?_eq_some_nil_iff {s : List Char} {needed : Bool} {digits : List Nat} :
    digitRun? 10 needed s = some (digits, []) ↔
      (∀ group ∈ if needed then s.splitOn '_' else (s.splitOn '_').tail, group ≠ []) ∧
        (s.filter (· != '_')).map digitValue? = digits.map some := by
  induction s generalizing needed digits with
  | nil => cases needed <;> cases digits <;> simp [digitRun?]
  | cons c rest ih =>
    unfold digitRun?
    rw [baseDigit?_ten]
    cases hdigit : digitValue? c with
    | none =>
      by_cases hc : c = '_'
      · subst hc
        cases needed <;> simp [splitOn_cons_self, ih]
      · have hvalues : (none :: (rest.filter (· != '_')).map digitValue?) ≠ digits.map some := by
          cases digits <;> simp
        cases needed <;> simp [hc, hdigit, hvalues]
    | some d =>
      have hc : c ≠ '_' := by
        rintro rfl
        rw [digitValue?_underscore] at hdigit
        cases hdigit
      -- the digit makes the first group nonempty, and the other groups are those of the rest
      have hgroups : (∀ group ∈ if needed then (c :: rest).splitOn '_' else
          ((c :: rest).splitOn '_').tail, group ≠ []) ↔
            ∀ group ∈ (rest.splitOn '_').tail, group ≠ [] := by
        rw [splitOn_cons_of_ne hc]
        cases rest.splitOn '_' <;> cases needed <;> simp
      rw [hgroups]
      cases digits with
      | nil => simp [hc]
      | cons e more =>
        have hrest := @ih false more
        simp only [Bool.false_eq_true, if_false] at hrest
        simp [hc, hdigit, hrest, and_comm, and_assoc]

theorem isDigit_head_of_digitRun? {c : Char} {s : List Char} {digits : List Nat}
    (h : digitRun? 10 true (c :: s) = some (digits, [])) : isDigit c = true := by
  unfold digitRun? at h
  rw [baseDigit?_ten] at h
  cases hdigit : digitValue? c with
  | none => simp [hdigit] at h
  | some d => simp [isDigit, hdigit]

theorem isDigit_getLast_of_digitRun? {c : Char} {s : List Char} {needed : Bool}
    {digits : List Nat} (h : digitRun? 10 needed (c :: s) = some (digits, [])) :
    isDigit ((c :: s).getLast (List.cons_ne_nil c s)) = true := by
  induction s generalizing c needed digits with
  | nil =>
    unfold digitRun? at h
    rw [baseDigit?_ten] at h
    cases hdigit : digitValue? c with
    | none => cases needed <;> simp [hdigit, digitRun?] at h
    | some d => simp [isDigit, hdigit]
  | cons d s ih =>
    rw [List.getLast_cons (List.cons_ne_nil d s)]
    unfold digitRun? at h
    split at h
    · obtain ⟨⟨more, behind⟩, hmore, heq⟩ := Option.map_eq_some_iff.1 h
      obtain ⟨-, rfl⟩ := Prod.mk.inj heq
      exact ih hmore
    · split at h
      · cases h
      · split at h
        · exact ih h
        · cases h

/-- Groups of digits are what a run of digits reads to the end. -/
theorem groupsDenote_iff {s : List Char} {n : Int} : GroupsDenote s n ↔
    ∃ digits, digitRun? 10 true s = some (digits, []) ∧ digits.length ≤ maxDigits ∧
      ((digits.foldl (fun n d ↦ 10 * n + d) 0 : Nat) : Int) = n := by
  simp only [digitRun?_eq_some_nil_iff, if_true]
  constructor
  · rintro ⟨hgroups, ⟨-, digits, hvalues, hvalue⟩, hlength⟩
    have hsame := congrArg List.length hvalues
    rw [List.length_map, List.length_map] at hsame
    rw [positional_natCast] at hvalue
    exact ⟨digits, ⟨hgroups, hvalues⟩, hsame ▸ hlength, hvalue⟩
  · rintro ⟨digits, ⟨hgroups, hvalues⟩, hlength, hvalue⟩
    have hsame := congrArg List.length hvalues
    rw [List.length_map, List.length_map] at hsame
    refine ⟨hgroups, ⟨?_, digits, hvalues, ?_⟩, hsame ▸ hlength⟩
    · cases s with
      | nil => exact absurd rfl (hgroups [] (by simp))
      | cons c rest =>
        have hc : c ≠ '_' := by
          rintro rfl
          exact hgroups [] (by simp [splitOn_cons_self]) rfl
        simp [hc]
    · rw [positional_natCast, hvalue]

/-! ## White space and signs -/

/-- White space is taken from both ends of a text, up to what is none. -/
theorem trimSpaces_append {before core behind : List Char}
    (hbefore : ∀ c ∈ before, isSpace c = true) (hbehind : ∀ c ∈ behind, isSpace c = true)
    (hfirst : core.head?.any isSpace = false) (hlast : core.getLast?.any isSpace = false)
    (hne : core ≠ []) : trimSpaces (before ++ (core ++ behind)) = core := by
  have hstart : (core ++ behind).head?.any isSpace = false := by
    rwa [List.head?_append_of_ne_nil _ hne]
  have hend : core.reverse.head?.any isSpace = false := by rwa [List.head?_reverse]
  rw [trimSpaces, (span_append hbefore hstart).2, List.reverse_append,
    (span_append (fun c hc ↦ hbehind c (List.mem_reverse.1 hc)) hend).2, List.reverse_reverse]

theorem exists_trimSpaces (s : List Char) : ∃ before behind,
    s = before ++ (trimSpaces s ++ behind) ∧ (∀ c ∈ before, isSpace c = true) ∧
      ∀ c ∈ behind, isSpace c = true := by
  set rest := s.dropWhile isSpace with hrest
  refine ⟨s.takeWhile isSpace, (rest.reverse.takeWhile isSpace).reverse, ?_,
    fun _ hc ↦ List.mem_takeWhile_imp hc, fun _ hc ↦ List.mem_takeWhile_imp (List.mem_reverse.1 hc)⟩
  rw [trimSpaces, ← hrest, ← List.reverse_append, List.takeWhile_append_dropWhile,
    List.reverse_reverse, hrest, List.takeWhile_append_dropWhile]

theorem splitSign_cases (s : List Char) : ∃ sign body, s = sign ++ body ∧
    ((sign = ['-'] ∧ splitSign s = (true, body)) ∨
      ((sign = [] ∨ sign = ['+']) ∧ splitSign s = (false, body))) := by
  unfold splitSign
  split
  next rest => exact ⟨['-'], rest, rfl, .inl ⟨rfl, rfl⟩⟩
  next rest => exact ⟨['+'], rest, rfl, .inr ⟨.inr rfl, rfl⟩⟩
  next => exact ⟨[], s, rfl, .inr ⟨.inl rfl, rfl⟩⟩

/-- What is read behind white space and a sign. -/
theorem readIn_ten_eq_ok {s body : List Char} {negative : Bool}
    (hsign : splitSign (trimSpaces s) = (negative, body)) {n : Int} :
    readIn 10 s = .ok n ↔ GroupsDenote body (if negative then -n else n) := by
  have hmark : behindMark 10 body = body := by
    unfold behindMark
    split <;> simp [baseMarks]
  rw [readIn, hsign, groupsDenote_iff]
  dsimp only
  rw [hmark]
  constructor
  · intro h
    split at h
    next => cases h
    next digits rest hrun =>
      split at h
      next => cases h
      next hlength =>
        split at h
        next => cases h
        next hrest =>
          obtain rfl : rest = [] := by simpa using hrest
          refine ⟨digits, hrun, by simpa using hlength, ?_⟩
          rw [← Except.ok.inj h]
          cases negative <;> simp
  · rintro ⟨digits, hrun, hlength, hvalue⟩
    have hmax : ¬maxDigits < digits.length := by omega
    simp only [hrun, hvalue]
    cases negative <;> simp [hmax]

/-- Neither a sign nor a digit is white space. -/
theorem isSpace_of_isDigit {c : Char} (h : isDigit c = true) : isSpace c = false := by
  simp [isSpace, isBlank_of_isDigit h]

/-- A numeral is its own text without white space, and its sign is told from its digits. -/
theorem GroupsDenote.trimSpaces_eq {before sign body behind : List Char} {m : Int}
    (h : GroupsDenote body m) (hsign : sign = ['-'] ∨ sign = [] ∨ sign = ['+'])
    (hbefore : ∀ c ∈ before, isSpace c = true) (hbehind : ∀ c ∈ behind, isSpace c = true) :
    splitSign (trimSpaces (before ++ ((sign ++ body) ++ behind))) =
      (decide (sign = ['-']), body) := by
  obtain ⟨digits, hrun, -⟩ := groupsDenote_iff.1 h
  cases body with
  | nil => cases hrun
  | cons c rest =>
    have hc := isDigit_head_of_digitRun? hrun
    have hlast := isDigit_getLast_of_digitRun? hrun
    have hne : sign ++ c :: rest ≠ [] := by simp
    rw [trimSpaces_append hbefore hbehind ?_ ?_ hne]
    · obtain rfl | rfl | rfl := hsign
      · rfl
      · refine splitSign_of_ne ?_ ?_ rest
        · rintro rfl
          exact absurd hc (by decide)
        · rintro rfl
          exact absurd hc (by decide)
      · rfl
    · obtain rfl | rfl | rfl := hsign
      · rfl
      · simpa using isSpace_of_isDigit hc
      · rfl
    · have hend : (sign ++ c :: rest).getLast? =
          some ((c :: rest).getLast (List.cons_ne_nil c rest)) := by
        rw [List.getLast?_append_of_ne_nil _ (List.cons_ne_nil c rest),
          List.getLast?_eq_some_getLast (List.cons_ne_nil c rest)]
      rw [hend]
      exact isSpace_of_isDigit hlast

/-- A text is read as an integer just if it stands for it. -/
theorem readInt_eq_ok_iff {s : String} {n : Int} : readInt s = .ok n ↔ StandsFor s.toList n := by
  rw [readInt]
  constructor
  · intro h
    obtain ⟨before, behind, hs, hbefore, hbehind⟩ := exists_trimSpaces s.toList
    obtain ⟨sign, body, hcore, hsign⟩ := splitSign_cases (trimSpaces s.toList)
    refine ⟨before, sign, body, behind, by rw [← hcore, ← hs], hbefore, hbehind, ?_⟩
    obtain ⟨rfl, hsplit⟩ | ⟨hsign, hsplit⟩ := hsign
    · exact .inl ⟨rfl, (readIn_ten_eq_ok hsplit).1 h⟩
    · exact .inr ⟨hsign, (readIn_ten_eq_ok hsplit).1 h⟩
  · rintro ⟨before, sign, body, behind, hs, hbefore, hbehind, ⟨rfl, hbody⟩ | ⟨hsign, hbody⟩⟩
    · rw [hs, readIn_ten_eq_ok (hbody.trimSpaces_eq (.inl rfl) hbefore hbehind)]
      exact hbody
    · rw [hs, readIn_ten_eq_ok (hbody.trimSpaces_eq (.inr hsign) hbefore hbehind)]
      obtain rfl | rfl := hsign
      · exact hbody
      · exact hbody

end GridPuzzle.Text
