import GridPuzzle.Constraint.Sentence
import GridPuzzle.Generator.Library
import GridPuzzle.Proofs.Text.Char
import GridPuzzle.Proofs.Text.Decimal
import GridPuzzle.Proofs.Text.Line

/-!
# Reading numerals

A text that looks like an integer can be read as one only if it is a numeral: it has at most one
minus sign, its digit-like characters are decimal digits, and there are not too many of them. What
is read from a text can be written.
-/

namespace GridPuzzle.Text

/-! ## Digits of base ten -/

theorem digitValue?_lt {c : Char} {d : Nat} (h : digitValue? c = some d) : d < 10 := by
  unfold digitValue? at h
  dsimp only at h
  split at h
  · split at h
    next hrange =>
      obtain rfl := Option.some.inj h
      omega
    next => simp at h
  · obtain ⟨start, hstart, rfl⟩ := Option.map_eq_some_iff.1 h
    have hrange := List.find?_some hstart
    simp only [Bool.and_eq_true, decide_eq_true_eq] at hrange
    omega

theorem filter_digitValue? (c : Char) : (digitValue? c).filter (· < 10) = digitValue? c := by
  cases h : digitValue? c with
  | none => rfl
  | some d => simp [Option.filter, digitValue?_lt h]

theorem digitValue?_eq_none {c : Char} (h : c.toNat < 0x80 ∧ ¬(0x30 ≤ c.toNat ∧ c.toNat < 0x3a)) :
    digitValue? c = none := by
  simp [digitValue?, h.1, h.2]

/-- The letters that are digits of base sixteen are no digits of base ten. -/
theorem baseDigit?_ten (c : Char) : baseDigit? 10 c = digitValue? c := by
  unfold baseDigit?
  dsimp only
  split
  next h =>
    have hrange : 97 ≤ c.toNat ∧ c.toNat ≤ 102 := by
      simpa [Char.le_def, UInt32.le_iff_toNat_le] using h
    have hlarge : ¬c.toNat - 0x57 < 10 := by omega
    rw [digitValue?_eq_none (by omega)]
    simp [Option.filter, hlarge]
  next =>
    split
    next h =>
      have hrange : 65 ≤ c.toNat ∧ c.toNat ≤ 70 := by
        simpa [Char.le_def, UInt32.le_iff_toNat_le] using h
      have hlarge : ¬c.toNat - 0x37 < 10 := by omega
      rw [digitValue?_eq_none (by omega)]
      simp [Option.filter, hlarge]
    next => exact filter_digitValue? c

/-! ## Runs of digits -/

/-- A run of digits without underscores takes the whole text exactly if all of it are digits. -/
theorem digitRun?_eq_some_nil {s : List Char} (hs : '_' ∉ s) {needed : Bool} {digits : List Nat} :
    digitRun? 10 needed s = some (digits, []) ↔
      (needed = true → s ≠ []) ∧ (∀ c ∈ s, isDigit c = true) ∧
        s.map digitValue? = digits.map some := by
  induction s generalizing needed digits with
  | nil => cases needed <;> cases digits <;> simp [digitRun?]
  | cons c rest ih =>
    obtain ⟨hc, hrest⟩ := List.ne_and_not_mem_of_not_mem_cons hs
    unfold digitRun?
    rw [baseDigit?_ten]
    cases hdigit : digitValue? c with
    | none =>
      have hnot : isDigit c = false := by simp [isDigit, hdigit]
      have hunderscore : (c == '_') = false := by simpa using Ne.symm hc
      cases needed <;> simp [hnot, hunderscore]
    | some d =>
      have his : isDigit c = true := by simp [isDigit, hdigit]
      simp only [Option.map_eq_some_iff, Prod.exists, Prod.mk.injEq]
      constructor
      · rintro ⟨more, behind, hrun, rfl, rfl⟩
        obtain ⟨_, hall, hvalues⟩ := (ih hrest).1 hrun
        exact ⟨by simp, List.forall_mem_cons.2 ⟨his, hall⟩, by simp [hdigit, hvalues]⟩
      · rintro ⟨_, hall, hvalues⟩
        cases digits with
        | nil => simp at hvalues
        | cons e more =>
          simp only [List.map_cons, List.cons.injEq, hdigit, Option.some.injEq] at hvalues
          obtain ⟨rfl, hmore⟩ := hvalues
          exact ⟨more, [], (ih hrest).2 ⟨by simp, (List.forall_mem_cons.1 hall).2, hmore⟩, rfl,
            rfl⟩

theorem lt_of_mem_digitRun? {base : Nat} {needed : Bool} {s rest : List Char} {digits : List Nat}
    (h : digitRun? base needed s = some (digits, rest)) : ∀ d ∈ digits, d < base := by
  fun_induction digitRun? base needed s generalizing digits rest with
  | case1 => simp at h
  | case2 => simp_all
  | case3 needed c behind d hd ih =>
    obtain ⟨⟨more, last⟩, hmore, heq⟩ := Option.map_eq_some_iff.1 h
    obtain ⟨rfl, rfl⟩ := Prod.mk.inj heq
    refine List.forall_mem_cons.2 ⟨?_, ih hmore⟩
    simpa using (Option.filter_eq_some_iff.1 hd).2
  | case4 => simp_all
  | case5 needed c behind _ _ _ ih => exact ih h
  | case6 => simp_all

/-! ## Denotations -/

/-- The number that a nonempty run of decimal digits denotes, most significant digit first. -/
def DigitsDenote (s : List Char) (n : Int) : Prop :=
  s ≠ [] ∧ ∃ digits : List Nat, s.map digitValue? = digits.map some ∧
    positional (digits.map Nat.cast) = n

/-- The integer that decimal digits denote, or one minus sign with decimal digits behind it. -/
def Denotes (s : List Char) (n : Int) : Prop :=
  DigitsDenote s n ∨ ∃ body, s = '-' :: body ∧ DigitsDenote body (-n)

theorem positional_natCast (digits : List Nat) : positional (digits.map Nat.cast) =
    (digits.foldl (fun n d ↦ 10 * n + d) 0 : Nat) := by
  have hfold (acc : Nat) :
      (digits.map Nat.cast).foldl (fun acc digit : Int ↦ acc * 10 + digit) acc =
        (digits.foldl (fun n d ↦ 10 * n + d) acc : Nat) := by
    induction digits generalizing acc with
    | nil => rfl
    | cons d ds ih =>
      rw [List.map_cons, List.foldl_cons, List.foldl_cons, ← ih]
      push_cast
      rw [mul_comm]
  exact hfold 0

theorem isDigit_of_map {s : List Char} {digits : List Nat}
    (h : s.map digitValue? = digits.map some) : ∀ c ∈ s, isDigit c = true := by
  intro c hc
  have hmem : digitValue? c ∈ digits.map some := h ▸ List.mem_map_of_mem hc
  obtain ⟨d, _, hd⟩ := List.mem_map.1 hmem
  simp [isDigit, ← hd]

theorem exists_digitsDenote {s : List Char} :
    (∃ n, DigitsDenote s n) ↔ s ≠ [] ∧ ∀ c ∈ s, isDigit c = true := by
  constructor
  · rintro ⟨n, hne, digits, hvalues, _⟩
    exact ⟨hne, isDigit_of_map hvalues⟩
  · rintro ⟨hne, hall⟩
    refine ⟨_, hne, s.filterMap digitValue?, ?_, rfl⟩
    have hsome : ∀ c ∈ s, (digitValue? c).isSome = true := hall
    clear hne hall
    induction s with
    | nil => rfl
    | cons c rest ih =>
      obtain ⟨d, hd⟩ := Option.isSome_iff_exists.1 (hsome c List.mem_cons_self)
      simp [hd, ih fun e he ↦ hsome e (List.mem_cons_of_mem c he)]

theorem DigitsDenote.not_minus {s : List Char} {n : Int} (h : DigitsDenote s n) :
    s.takeWhile (· == '-') = [] ∧ s.dropWhile (· == '-') = s := by
  obtain ⟨hne, digits, hvalues, _⟩ := h
  have hall := isDigit_of_map hvalues
  have hminus : isDigit '-' = false := by decide
  cases s with
  | nil => exact absurd rfl hne
  | cons c rest =>
    have hc : (c == '-') = false := by
      rw [beq_eq_false_iff_ne]
      rintro rfl
      simp [hall _ List.mem_cons_self] at hminus
    simp [hc]

/-- A text denotes an integer if it holds decimal digits with at most one minus sign before them. -/
theorem exists_denotes {s : List Char} (hne : s.dropWhile (· == '-') ≠ []) : (∃ n, Denotes s n) ↔
    (s.takeWhile (· == '-')).length ≤ 1 ∧ ∀ c ∈ s.dropWhile (· == '-'), isDigit c = true := by
  constructor
  · rintro ⟨n, h | ⟨body, rfl, h⟩⟩
    · rw [h.not_minus.1, h.not_minus.2]
      exact ⟨by simp, (exists_digitsDenote.1 ⟨n, h⟩).2⟩
    · simp only [List.takeWhile_cons, List.dropWhile_cons, beq_self_eq_true, if_true,
        h.not_minus.1, h.not_minus.2]
      exact ⟨by simp, (exists_digitsDenote.1 ⟨-n, h⟩).2⟩
  · rintro ⟨hlength, hall⟩
    cases s with
    | nil => exact absurd rfl hne
    | cons c rest =>
      by_cases hc : c = '-'
      · subst hc
        simp only [List.takeWhile_cons, List.dropWhile_cons, beq_self_eq_true, if_true,
          List.length_cons] at hne hlength hall
        have hnone : rest.takeWhile (· == '-') = [] := List.eq_nil_of_length_eq_zero (by omega)
        have hrest := List.takeWhile_append_dropWhile (p := (· == '-')) (l := rest)
        rw [hnone, List.nil_append] at hrest
        rw [hrest] at hne hall
        obtain ⟨n, hn⟩ := exists_digitsDenote.2 ⟨hne, hall⟩
        exact ⟨-n, .inr ⟨rest, rfl, by simpa using hn⟩⟩
      · have hne' : (c == '-') = false := by simpa using hc
        simp only [hne', Bool.false_eq_true, if_false, List.dropWhile_cons] at hne hall
        obtain ⟨n, hn⟩ := exists_digitsDenote.2 ⟨hne, hall⟩
        exact ⟨n, .inl hn⟩

/-! ## Integers -/

theorem foldl_digits_lt {digits : List Nat} (h : ∀ d ∈ digits, d < 10) :
    digits.foldl (fun n d ↦ 10 * n + d) 0 < 10 ^ digits.length := by
  have hfold : digits.foldl (fun n d ↦ 10 * n + d) 0 = Nat.ofDigits 10 digits.reverse := by
    rw [Nat.ofDigits_eq_foldr, List.foldr_reverse]
    simp [add_comm]
  rw [hfold, ← List.length_reverse]
  exact Nat.ofDigits_lt_base_pow_length (by decide) (by simpa using h)

theorem isWritable_of_lt_pow {n : Int} {k : Nat} (hk : k ≤ maxDigits) (h : n.natAbs < 10 ^ k) :
    isWritable n = true := by
  have hpow (m : Nat) (hm : k ≤ m) : n.natAbs < Nat.pow 10 m :=
    Nat.lt_of_lt_of_le h (Nat.pow_le_pow_right (by decide) hm)
  unfold isWritable leastUnwritable
  rw [decide_eq_true_eq]
  apply hpow
  exact hk

/-- What is read in base ten can be written. -/
theorem isWritable_of_readInt {s : String} {n : Int} (h : readInt s = .ok n) :
    isWritable n = true := by
  unfold readInt readIn at h
  dsimp only at h
  split at h
  next => simp at h
  next digits rest hrun =>
    have hlt := foldl_digits_lt (lt_of_mem_digitRun? hrun)
    split at h
    next => simp at h
    next hlength =>
      split at h
      next => simp at h
      next =>
        have hmax : digits.length ≤ maxDigits := by simpa using hlength
        refine isWritable_of_lt_pow hmax ?_
        rw [← Except.ok.inj h]
        split <;> simpa using hlt

/-- An integer as it may be given: at most one minus sign, decimal digits of any script, and no more
of them than can be read. -/
def IsNumeral (s : List Char) : Prop :=
  (s.takeWhile (· == '-')).length ≤ 1 ∧ (∀ c ∈ s.dropWhile (· == '-'), isDigit c = true) ∧
    (s.dropWhile (· == '-')).length ≤ maxDigits

theorem trimSpaces_of_isFramed {s : List Char} (h : IsFramed s) : trimSpaces s = s := by
  have hspace (c : Char) (hc : isBlank c = false) : isSpace c = false := by simp [isSpace, hc]
  have hstart : s.dropWhile isSpace = s := by
    cases s with
    | nil => rfl
    | cons c rest =>
      have hc : isBlank c = false := by simpa [StartsText] using h.1
      simp [hspace c hc]
  have hend : s.reverse.dropWhile isSpace = s.reverse := by
    cases hs : s.reverse with
    | nil => rfl
    | cons c rest =>
      have hc : isBlank c = false := by
        have hlast := h.2
        rw [EndsText, ← List.head?_reverse, hs] at hlast
        simpa using hlast
      simp [hspace c hc]
  rw [trimSpaces, hstart, hend, List.reverse_reverse]

/-- What is left when the white space around a text is gone neither starts nor ends with it. -/
theorem isFramed_trim {s : List Char} (h : trim s ≠ []) : IsFramed (trim s) := by
  refine ⟨?_, endsText_trimEnd h⟩
  unfold trim at h ⊢
  have hhead := List.head?_dropWhile_not isBlank s
  cases hs : trimStart s with
  | nil => exact absurd (by rw [hs]; rfl) h
  | cons c rest =>
    have hc : isBlank c = false := by
      unfold trimStart at hs
      simpa [hs] using hhead
    obtain ⟨kept, heq, _⟩ := exists_trimEnd_cons hc rest
    rw [heq]
    simp [StartsText, hc]

/-- What is read behind a sign. -/
theorem readIn_eq_ok {s body : List Char} {negative : Bool} (hs : IsFramed s)
    (hsign : splitSign s = (negative, body)) (hbody : '_' ∉ body) {n : Int} :
    readIn 10 s = .ok n ↔
      DigitsDenote body (if negative then -n else n) ∧ body.length ≤ maxDigits := by
  have hmark : behindMark 10 body = body := by
    unfold behindMark
    split <;> simp [baseMarks]
  unfold readIn
  rw [trimSpaces_of_isFramed hs, hsign]
  dsimp only
  rw [hmark]
  constructor
  · intro h
    split at h
    next => simp at h
    next digits rest hrun =>
      split at h
      next => simp at h
      next hlength =>
        split at h
        next => simp at h
        next hrest =>
          obtain rfl : rest = [] := by simpa using hrest
          obtain ⟨hne, _, hvalues⟩ := (digitRun?_eq_some_nil hbody).1 hrun
          have hsame : body.length = digits.length := by
            simpa using congrArg List.length hvalues
          refine ⟨⟨hne rfl, digits, hvalues, ?_⟩, hsame ▸ by simpa using hlength⟩
          rw [positional_natCast, ← Except.ok.inj h]
          cases negative <;> simp
  · rintro ⟨⟨hne, digits, hvalues, hvalue⟩, hlength⟩
    have hrun : digitRun? 10 true body = some (digits, []) :=
      (digitRun?_eq_some_nil hbody).2 ⟨fun _ ↦ hne, isDigit_of_map hvalues, hvalues⟩
    have hmax : ¬maxDigits < digits.length := by
      have hsame : body.length = digits.length := by simpa using congrArg List.length hvalues
      omega
    rw [positional_natCast] at hvalue
    simp only [hrun, hvalue]
    cases negative <;> simp [hmax]

theorem mem_dropWhile_of_mem {p : Char → Bool} {c : Char} {s : List Char} (hc : p c = false)
    (h : c ∈ s) : c ∈ s.dropWhile p := by
  rw [← List.takeWhile_append_dropWhile (p := p) (l := s)] at h
  refine (List.mem_append.1 h).resolve_left fun hmem ↦ ?_
  simpa [hc] using List.mem_takeWhile_imp hmem

theorem splitSign_of_ne {c : Char} (hminus : c ≠ '-') (hplus : c ≠ '+') (rest : List Char) :
    splitSign (c :: rest) = (false, c :: rest) := by
  unfold splitSign
  split
  next heq => exact absurd (List.cons.inj heq).1 hminus
  next heq => exact absurd (List.cons.inj heq).1 hplus
  next => rfl

/-- Of the texts that look like integers, those that denote one are read as it, unless they have too
many digits. -/
theorem readInt_strip_eq_ok {s : String} (h : looksLikeInteger (trim s.toList) = true) {n : Int} :
    readInt (strip s) = .ok n ↔ Denotes (trim s.toList) n ∧
      ((trim s.toList).dropWhile (· == '-')).length ≤ maxDigits := by
  simp only [looksLikeInteger, Bool.and_eq_true, Bool.not_eq_true', List.isEmpty_eq_false_iff,
    List.all_eq_true] at h
  obtain ⟨hne, hlike⟩ := h
  have hnot (c : Char) (hc : isDigitLike c = false) (hc' : (c == '-') = false) :
      c ∉ trim s.toList := fun hmem ↦ by
    rw [hlike c (mem_dropWhile_of_mem hc' hmem)] at hc
    exact Bool.noConfusion hc
  have hunderscore := hnot '_' (by decide +kernel) (by decide)
  have hplus := hnot '+' (by decide +kernel) (by decide)
  have hframed : IsFramed (trim s.toList) := isFramed_trim fun hnil ↦ hne (by rw [hnil]; rfl)
  rw [readInt, strip, String.toList_ofList]
  generalize trim s.toList = t at *
  cases t with
  | nil => exact absurd rfl hne
  | cons c rest =>
    by_cases hc : c = '-'
    · subst hc
      have hdigits : ¬DigitsDenote ('-' :: rest) n := fun h ↦ by simpa using h.not_minus.1
      rw [readIn_eq_ok hframed rfl (List.not_mem_of_not_mem_cons hunderscore), Denotes]
      simp only [hdigits, false_or, List.cons.injEq, true_and, exists_eq_left', if_true,
        List.dropWhile_cons, beq_self_eq_true]
      exact and_congr_right fun h ↦ by rw [h.not_minus.2]
    · have hsigned : ¬∃ body, c :: rest = '-' :: body ∧ DigitsDenote body (-n) := by
        rintro ⟨body, heq, _⟩
        exact hc (List.cons.inj heq).1
      have hsign := splitSign_of_ne hc (fun heq ↦ hplus (by simp [heq])) rest
      rw [readIn_eq_ok hframed hsign hunderscore, Denotes, or_iff_left hsigned]
      exact and_congr_right fun h ↦ by rw [h.not_minus.2]

/-- Of the texts that look like integers, the numerals can be read. -/
theorem readInt_strip {s : String} (h : looksLikeInteger (trim s.toList) = true) :
    (∃ n, readInt (strip s) = .ok n) ↔ IsNumeral (trim s.toList) := by
  have hne : (trim s.toList).dropWhile (· == '-') ≠ [] := by
    simpa using (Bool.and_eq_true_iff.1 h).1
  simp only [readInt_strip_eq_ok h, exists_and_right, exists_denotes hne, and_assoc, IsNumeral]

/-- A digit is one of the ten behind a zero of the table. -/
theorem exists_zero_of_isDigit {c : Char} (h : isDigit c = true) :
    ∃ start ∈ 0x30 :: digitZeros, start ≤ c.toNat ∧ c.toNat < start + 10 := by
  obtain ⟨d, hd⟩ := Option.isSome_iff_exists.1 h
  unfold digitValue? at hd
  dsimp only at hd
  split at hd
  · split at hd
    next hascii => exact ⟨0x30, List.mem_cons_self, hascii⟩
    next => simp at hd
  · obtain ⟨start, hstart, _⟩ := Option.map_eq_some_iff.1 hd
    refine ⟨start, List.mem_cons_of_mem _ (List.mem_of_find?_eq_some hstart), ?_⟩
    simpa using List.find?_some hstart

/-- Decimal digits are digit-like. -/
theorem isDigitLike_of_isDigit {c : Char} (h : isDigit c = true) : isDigitLike c = true := by
  have htable : ∀ start ∈ 0x30 :: digitZeros, ∀ k < 10,
      CharSet.countFrom digitLike.changes (start + k) 0 digitLike.changes.size % 2 = 1 := by
    decide +kernel
  obtain ⟨start, hstart, hle, hlt⟩ := exists_zero_of_isDigit h
  have hcount := htable start hstart (c.toNat - start) (by omega)
  rw [Nat.add_sub_cancel' hle] at hcount
  simp [isDigitLike, CharSet.contains, hcount]

/-- A text that denotes an integer looks like one. -/
theorem Denotes.looksLikeInteger {s : List Char} {n : Int} (h : Denotes s n) :
    looksLikeInteger s = true := by
  have hdigits {s : List Char} {n : Int} (h : DigitsDenote s n) :
      s ≠ [] ∧ ∀ c ∈ s, isDigitLike c = true := by
    obtain ⟨hne, hall⟩ := exists_digitsDenote.1 ⟨n, h⟩
    exact ⟨hne, fun c hc ↦ isDigitLike_of_isDigit (hall c hc)⟩
  obtain h | ⟨body, rfl, h⟩ := h
  · rw [GridPuzzle.looksLikeInteger, h.not_minus.2]
    simpa using hdigits h
  · simp only [GridPuzzle.looksLikeInteger, List.dropWhile_cons, beq_self_eq_true, if_true,
      h.not_minus.2]
    simpa using hdigits h

end GridPuzzle.Text
