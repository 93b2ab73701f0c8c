import Mathlib

/-!
# Steps that may fail

A computation in `Except` stops at its first fault. The statements here take such computations
apart: a sequence of two steps, a step mapped through a function, a check made of every member of a
list, and a list computed member by member. What succeeded is known of every member, and what
failed is the fault of the first member that has one. Two computations agree if they have the same
results, whatever their faults are.
-/

namespace GridPuzzle.Fallible

variable {ε α β γ : Type}

theorem bind_eq_ok {x : Except ε α} {f : α → Except ε β} {b : β} :
    x >>= f = .ok b ↔ ∃ a, x = .ok a ∧ f a = .ok b := by
  cases x with
  | error e => simp [bind, Except.bind]
  | ok a => simp [bind, Except.bind]

theorem bind_eq_error {x : Except ε α} {f : α → Except ε β} {e : ε} :
    x >>= f = .error e ↔ x = .error e ∨ ∃ a, x = .ok a ∧ f a = .error e := by
  cases x with
  | error e => simp [bind, Except.bind]
  | ok a => simp [bind, Except.bind]

theorem map_eq_ok {x : Except ε α} {f : α → β} {b : β} :
    x.map f = .ok b ↔ ∃ a, x = .ok a ∧ f a = b := by
  cases x <;> simp [Except.map]

theorem map_eq_error {x : Except ε α} {f : α → β} {e : ε} :
    x.map f = .error e ↔ x = .error e := by
  cases x <;> simp [Except.map]

@[simp] theorem ok_bind (a : α) (f : α → Except ε β) : (Except.ok a >>= f) = f a := rfl

@[simp] theorem error_bind (e : ε) (f : α → Except ε β) : (Except.error e >>= f) = .error e := rfl

@[simp] theorem pure_eq_ok (a : α) : (pure a : Except ε α) = .ok a := rfl

@[simp] theorem throw_eq_error (e : ε) : (throw e : Except ε α) = .error e := rfl

/-! ## Checks of every member -/

theorem forM_cons (x : α) (l : List α) (f : α → Except ε Unit) :
    (x :: l).forM f = (f x >>= fun _ ↦ l.forM f) := rfl

theorem forM_eq_ok {l : List α} {f : α → Except ε Unit} :
    l.forM f = .ok () ↔ ∀ x ∈ l, f x = .ok () := by
  induction l with
  | nil => simp [List.forM]
  | cons x l ih =>
    rw [forM_cons, bind_eq_ok, List.forall_mem_cons, ← ih]
    constructor
    · rintro ⟨⟨⟩, hx, hl⟩
      exact ⟨hx, hl⟩
    · rintro ⟨hx, hl⟩
      exact ⟨(), hx, hl⟩

theorem forM_eq_error {l : List α} {f : α → Except ε Unit} {e : ε} (h : l.forM f = .error e) :
    ∃ x ∈ l, f x = .error e := by
  induction l with
  | nil => simp [List.forM] at h
  | cons x l ih =>
    rw [forM_cons, bind_eq_error] at h
    obtain h | ⟨_, _, h⟩ := h
    · exact ⟨x, List.mem_cons_self, h⟩
    · obtain ⟨y, hy, he⟩ := ih h
      exact ⟨y, List.mem_cons_of_mem x hy, he⟩

/-- Checks stop at the first that fails. -/
theorem forM_append_cons {before after : List α} {x : α} {f : α → Except ε Unit} {e : ε}
    (hbefore : ∀ y ∈ before, f y = .ok ()) (hx : f x = .error e) :
    (before ++ x :: after).forM f = .error e := by
  induction before with
  | nil => rw [List.nil_append, forM_cons, hx, error_bind]
  | cons y before ih =>
    rw [List.cons_append, forM_cons, hbefore y List.mem_cons_self, ok_bind]
    exact ih fun z hz ↦ hbefore z (List.mem_cons_of_mem y hz)

/-! ## Lists computed member by member -/

theorem mapM_eq_ok {l : List α} {f : α → Except ε β} {r : List β} :
    l.mapM f = .ok r ↔ List.Forall₂ (fun a b ↦ f a = .ok b) l r := by
  induction l generalizing r with
  | nil => cases r <;> simp
  | cons x l ih =>
    simp only [List.mapM_cons, bind_eq_ok, ih, List.forall₂_cons_left_iff, pure_eq_ok,
      Except.ok.injEq]
    constructor
    · rintro ⟨b, hb, bs, hbs, rfl⟩
      exact ⟨b, bs, hb, hbs, rfl⟩
    · rintro ⟨b, bs, hb, hbs, rfl⟩
      exact ⟨b, hb, bs, hbs, rfl⟩

theorem forall₂_of_mapM_eq_ok {l : List α} {f : α → Except ε β} {r : List β} {R : α → β → Prop}
    (h : l.mapM f = .ok r) (hR : ∀ a ∈ l, ∀ b, f a = .ok b → R a b) : List.Forall₂ R l r := by
  have hall := mapM_eq_ok.1 h
  clear h
  induction hall with
  | nil => exact .nil
  | cons ha _ ih =>
    exact .cons (hR _ List.mem_cons_self _ ha) (ih fun a hmem ↦ hR a (List.mem_cons_of_mem _ hmem))

/-- Members of a list that are all looked up with success, and a result for each of them. -/
theorem forall₂_of_filterMap_mapM_eq_ok {l : List α} {f : α → Option β} {g : β → Except ε γ}
    {r : List γ} {R : α → γ → Prop} (h : (l.filterMap f).mapM g = .ok r)
    (hR : ∀ a ∈ l, ∃ b, f a = some b ∧ ∀ c, g b = .ok c → R a c) : List.Forall₂ R l r := by
  induction l generalizing r with
  | nil =>
    obtain rfl := Except.ok.inj h
    exact .nil
  | cons a l ih =>
    obtain ⟨⟨b, hb, hc⟩, hrest⟩ := List.forall_mem_cons.1 hR
    rw [List.filterMap_cons_some hb, List.mapM_cons] at h
    obtain ⟨c, hmade, h⟩ := bind_eq_ok.1 h
    obtain ⟨cs, hmore, h⟩ := bind_eq_ok.1 h
    obtain rfl := Except.ok.inj h
    exact .cons (hc c hmade) (ih hmore hrest)

theorem mapM_append_cons_eq_ok {before after : List α} {a : α} {f : α → Except ε β} {r : List β}
    (h : (before ++ a :: after).mapM f = .ok r) :
    ∃ first b rest, before.mapM f = .ok first ∧ f a = .ok b ∧ r = first ++ b :: rest := by
  rw [List.mapM_append] at h
  obtain ⟨first, hfirst, h⟩ := bind_eq_ok.1 h
  obtain ⟨last, hlast, h⟩ := bind_eq_ok.1 h
  rw [List.mapM_cons] at hlast
  obtain ⟨b, hb, hlast⟩ := bind_eq_ok.1 hlast
  obtain ⟨rest, _, hlast⟩ := bind_eq_ok.1 hlast
  obtain rfl := Except.ok.inj hlast
  exact ⟨first, b, rest, hfirst, hb, (Except.ok.inj h).symm⟩

theorem mapM_concat_eq_ok {l : List α} {a : α} {f : α → Except ε β} {r : List β}
    (h : (l ++ [a]).mapM f = .ok r) :
    ∃ front b, l.mapM f = .ok front ∧ f a = .ok b ∧ r = front ++ [b] := by
  obtain ⟨front, b, rest, hfront, hb, rfl⟩ := mapM_append_cons_eq_ok h
  have hlength := (mapM_eq_ok.1 h).length_eq
  have hsame := (mapM_eq_ok.1 hfront).length_eq
  simp only [List.length_append, List.length_cons, List.length_nil] at hlength
  obtain rfl : rest = [] := List.length_eq_zero_iff.1 (by omega)
  exact ⟨front, b, hfront, hb, rfl⟩

/-- Every member of the result comes from a member of the list. -/
theorem exists_mem_of_mapM_eq_ok {l : List α} {f : α → Except ε β} {r : List β}
    (h : l.mapM f = .ok r) {b : β} (hb : b ∈ r) : ∃ a ∈ l, f a = .ok b := by
  have hall := mapM_eq_ok.1 h
  clear h
  induction hall with
  | nil => simp at hb
  | cons ha _ ih =>
    obtain rfl | hb := List.mem_cons.1 hb
    · exact ⟨_, List.mem_cons_self, ha⟩
    · obtain ⟨a, ha, heq⟩ := ih hb
      exact ⟨a, List.mem_cons_of_mem _ ha, heq⟩

/-- Every member of the joined results comes from a member of the list. -/
theorem exists_mem_of_mem_flatten {l : List α} {f : α → Except ε (List β)} {r : List (List β)}
    (h : l.mapM f = .ok r) {b : β} (hb : b ∈ r.flatten) :
    ∃ a ∈ l, ∃ bs, f a = .ok bs ∧ b ∈ bs := by
  obtain ⟨bs, hbs, hb⟩ := List.mem_flatten.1 hb
  obtain ⟨a, ha, heq⟩ := exists_mem_of_mapM_eq_ok h hbs
  exact ⟨a, ha, bs, heq, hb⟩

/-- What is computed of a member is a member of the result. -/
theorem forall_of_mapM_eq_ok {l : List α} {f : α → Except ε β} {r : List β} (h : l.mapM f = .ok r) :
    ∀ a ∈ l, ∃ b ∈ r, f a = .ok b := by
  have hall := mapM_eq_ok.1 h
  clear h
  induction hall with
  | nil => simp
  | cons ha _ ih =>
    refine List.forall_mem_cons.2 ⟨⟨_, List.mem_cons_self, ha⟩, fun a hmem ↦ ?_⟩
    obtain ⟨b, hb, heq⟩ := ih a hmem
    exact ⟨b, List.mem_cons_of_mem _ hb, heq⟩

/-- What is collected from the results is collected from the members. -/
theorem flatMap_of_mapM_eq_ok {l : List α} {f : α → Except ε β} {r : List β} {g : β → List γ}
    {k : α → List γ} (h : l.mapM f = .ok r) (hg : ∀ a ∈ l, ∀ b, f a = .ok b → g b = k a) :
    r.flatMap g = l.flatMap k := by
  have hall := mapM_eq_ok.1 h
  clear h
  induction hall with
  | nil => rfl
  | cons ha _ ih =>
    rw [List.flatMap_cons, List.flatMap_cons, hg _ List.mem_cons_self _ ha,
      ih fun a hmem ↦ hg a (List.mem_cons_of_mem _ hmem)]

/-- What is collected from the results for two lists is the same if it is so for their members. -/
theorem flatMap_eq_of_mapM_eq_ok {α' β' : Type} {l : List α} {l' : List α'} {f : α → Except ε β}
    {f' : α' → Except ε β'} {r : List β} {r' : List β'} {g : β → List γ} {g' : β' → List γ}
    {R : α → α' → Prop} (hl : List.Forall₂ R l l') (h : l.mapM f = .ok r) (h' : l'.mapM f' = .ok r')
    (hg : ∀ a a', R a a' → ∀ b b', f a = .ok b → f' a' = .ok b' → g b = g' b') :
    r.flatMap g = r'.flatMap g' := by
  induction hl generalizing r r' with
  | nil =>
    obtain rfl := Except.ok.inj h
    obtain rfl := Except.ok.inj h'
    rfl
  | cons hR _ ih =>
    rw [List.mapM_cons] at h h'
    obtain ⟨b, hb, h⟩ := bind_eq_ok.1 h
    obtain ⟨bs, hbs, h⟩ := bind_eq_ok.1 h
    obtain rfl := Except.ok.inj h
    obtain ⟨b', hb', h'⟩ := bind_eq_ok.1 h'
    obtain ⟨bs', hbs', h'⟩ := bind_eq_ok.1 h'
    obtain rfl := Except.ok.inj h'
    rw [List.flatMap_cons, List.flatMap_cons, hg _ _ hR b b' hb hb', ih hbs hbs']

theorem mapM_eq_some {l : List α} {f : α → Option β} {r : List β} :
    l.mapM f = some r ↔ List.Forall₂ (fun a b ↦ f a = some b) l r := by
  induction l generalizing r with
  | nil => cases r <;> simp
  | cons x l ih =>
    simp only [List.mapM_cons, Option.bind_eq_bind, Option.bind_eq_some_iff, ih,
      List.forall₂_cons_left_iff, Option.pure_def, Option.some.injEq]
    constructor
    · rintro ⟨b, hb, bs, hbs, rfl⟩
      exact ⟨b, bs, hb, hbs, rfl⟩
    · rintro ⟨b, bs, hb, hbs, rfl⟩
      exact ⟨b, hb, bs, hbs, rfl⟩

/-- Every member of the result comes from a member of the list. -/
theorem exists_mem_of_mapM_eq_some {l : List α} {f : α → Option β} {r : List β}
    (h : l.mapM f = some r) {b : β} (hb : b ∈ r) : ∃ a ∈ l, f a = some b := by
  induction l generalizing r with
  | nil =>
    obtain rfl := Option.some.inj h
    cases hb
  | cons x l ih =>
    simp only [List.mapM_cons, Option.bind_eq_bind, Option.bind_eq_some_iff] at h
    obtain ⟨c, hc, cs, hcs, h⟩ := h
    obtain rfl := Option.some.inj h
    obtain rfl | hb := List.mem_cons.1 hb
    · exact ⟨x, List.mem_cons_self, hc⟩
    · obtain ⟨a, ha, heq⟩ := ih hcs hb
      exact ⟨a, List.mem_cons_of_mem x ha, heq⟩

theorem exists_mem_of_mapM_eq_none {l : List α} {f : α → Option β} (h : l.mapM f = none) :
    ∃ a ∈ l, f a = none := by
  induction l with
  | nil => cases h
  | cons x l ih =>
    cases hx : f x with
    | none => exact ⟨x, List.mem_cons_self, hx⟩
    | some b =>
      cases hl : l.mapM f with
      | none =>
        obtain ⟨a, ha, hnone⟩ := ih hl
        exact ⟨a, List.mem_cons_of_mem x ha, hnone⟩
      | some bs => simp [hx, hl] at h

/-- A computation along a list fails at the first member where it does. -/
theorem mapM_eq_error_iff {l : List α} {f : α → Except ε β} {e : ε} :
    l.mapM f = .error e ↔ ∃ before x after, l = before ++ x :: after ∧
      (∀ y ∈ before, ∃ b, f y = .ok b) ∧ f x = .error e := by
  induction l with
  | nil => simp
  | cons a l ih =>
    have hsplit : (∃ before x after, a :: l = before ++ x :: after ∧
        (∀ y ∈ before, ∃ b, f y = .ok b) ∧ f x = .error e) ↔ f a = .error e ∨
          (∃ b, f a = .ok b) ∧ ∃ before x after, l = before ++ x :: after ∧
            (∀ y ∈ before, ∃ b, f y = .ok b) ∧ f x = .error e := by
      constructor
      · rintro ⟨before, x, after, heq, hbefore, hx⟩
        cases before with
        | nil =>
          obtain ⟨rfl, -⟩ := List.cons.inj heq
          exact .inl hx
        | cons y before =>
          obtain ⟨rfl, rfl⟩ := List.cons.inj heq
          obtain ⟨hfirst, hrest⟩ := List.forall_mem_cons.1 hbefore
          exact .inr ⟨hfirst, before, x, after, rfl, hrest, hx⟩
      · rintro (ha | ⟨hfirst, before, x, after, rfl, hbefore, hx⟩)
        · exact ⟨[], a, l, rfl, by simp, ha⟩
        · exact ⟨a :: before, x, after, rfl, List.forall_mem_cons.2 ⟨hfirst, hbefore⟩, hx⟩
    rw [hsplit, ← ih, List.mapM_cons]
    cases f a with
    | error d => simp
    | ok b => cases l.mapM f <;> simp

theorem mapM_eq_error {l : List α} {f : α → Except ε β} {e : ε} (h : l.mapM f = .error e) :
    ∃ x ∈ l, f x = .error e := by
  obtain ⟨before, x, after, rfl, -, hx⟩ := mapM_eq_error_iff.1 h
  exact ⟨x, by simp, hx⟩

theorem exists_mapM_eq_ok {l : List α} {f : α → Except ε β} (h : ∀ x ∈ l, ∃ b, f x = .ok b) :
    ∃ r, l.mapM f = .ok r := by
  induction l with
  | nil => exact ⟨[], by simp⟩
  | cons x l ih =>
    obtain ⟨b, hb⟩ := h x List.mem_cons_self
    obtain ⟨r, hr⟩ := ih fun y hy ↦ h y (List.mem_cons_of_mem x hy)
    exact ⟨b :: r, by simp [List.mapM_cons, hb, hr]⟩

/-- Results that are all mapped through a function are mapped as a list. -/
theorem mapM_map_eq {l : List α} {f : α → Except ε β} {g : β → γ} :
    l.mapM (fun a ↦ (f a).map g) = (l.mapM f).map (List.map g) := by
  induction l with
  | nil => rfl
  | cons x l ih =>
    rw [List.mapM_cons, List.mapM_cons, ih]
    cases f x <;> cases l.mapM f <;> rfl

theorem mapM_congr {l : List α} {f g : α → Except ε β} (h : ∀ a ∈ l, f a = g a) :
    l.mapM f = l.mapM g := by
  induction l with
  | nil => rfl
  | cons x l ih =>
    rw [List.mapM_cons, List.mapM_cons, h x List.mem_cons_self,
      ih fun a ha ↦ h a (List.mem_cons_of_mem x ha)]

/-- Lookups that all succeed find what is found without leaving any member out. -/
theorem mapM_eq_filterMap {l : List α} {f : α → Option β} {g : α → Except ε β}
    (h : ∀ a ∈ l, ∃ b, f a = some b ∧ g a = .ok b) : l.mapM g = .ok (l.filterMap f) := by
  induction l with
  | nil => rfl
  | cons x l ih =>
    obtain ⟨⟨b, hb, hg⟩, hrest⟩ := List.forall_mem_cons.1 h
    rw [List.mapM_cons, hg, ok_bind, ih hrest, ok_bind, List.filterMap_cons_some hb]
    rfl

/-- Results that are all at hand may be used one after the other as soon as they are. -/
theorem mapM_bind_mapM {l : List α} {f : α → Except ε β} {g : β → Except ε γ}
    (h : ∀ a ∈ l, ∃ b, f a = .ok b) :
    (l.mapM f >>= fun r ↦ r.mapM g) = l.mapM fun a ↦ f a >>= g := by
  induction l with
  | nil => rfl
  | cons x l ih =>
    obtain ⟨⟨b, hb⟩, hrest⟩ := List.forall_mem_cons.1 h
    obtain ⟨r, hr⟩ := exists_mapM_eq_ok hrest
    rw [List.mapM_cons, List.mapM_cons, ← ih hrest, hb, hr]
    simp only [ok_bind, pure_eq_ok, List.mapM_cons]

/-! ## Computations along a list -/

/-- What every step along a list preserves holds at its end. -/
theorem foldlM_induction {l : List α} {f : β → α → Except ε β} {motive : β → Prop} {b b' : β}
    (hb : motive b) (step : ∀ x ∈ l, ∀ c c', motive c → f c x = .ok c' → motive c')
    (h : l.foldlM f b = .ok b') : motive b' := by
  induction l generalizing b with
  | nil =>
    obtain rfl : b = b' := by simpa using h
    exact hb
  | cons x l ih =>
    rw [List.foldlM_cons] at h
    obtain ⟨c, hc, h⟩ := bind_eq_ok.1 h
    exact ih (step x List.mem_cons_self b c hb hc)
      (fun y hy ↦ step y (List.mem_cons_of_mem x hy)) h

/-! ## Faults of a kind -/

/-- Whatever fault a computation has is of a kind. -/
def FaultsIn (kind : ε → Prop) (x : Except ε α) : Prop := ∀ e, x = .error e → kind e

namespace FaultsIn

variable {kind : ε → Prop}

theorem ok (a : α) : FaultsIn kind (.ok a) := by simp [FaultsIn]

theorem error {e : ε} (h : kind e) : FaultsIn kind (.error e : Except ε α) := by
  simpa [FaultsIn] using h

theorem mono {wider : ε → Prop} {x : Except ε α} (hx : FaultsIn kind x)
    (h : ∀ e, kind e → wider e) : FaultsIn wider x := fun e he ↦ h e (hx e he)

theorem bind {x : Except ε α} {f : α → Except ε β} (hx : FaultsIn kind x)
    (hf : ∀ a, x = .ok a → FaultsIn kind (f a)) : FaultsIn kind (x >>= f) := by
  intro e h
  obtain h | ⟨a, ha, h⟩ := bind_eq_error.1 h
  · exact hx e h
  · exact hf a ha e h

theorem of_throw {e : ε} (h : kind e) : FaultsIn kind (throw e : Except ε α) := error h

theorem of_throw_bind {e : ε} (h : kind e) (f : α → Except ε β) :
    FaultsIn kind ((throw e : Except ε α) >>= f) := error h

theorem map {x : Except ε α} (hx : FaultsIn kind x) (f : α → β) : FaultsIn kind (x.map f) :=
  fun e h ↦ hx e (map_eq_error.1 h)

theorem forM {l : List α} {f : α → Except ε Unit} (h : ∀ x ∈ l, FaultsIn kind (f x)) :
    FaultsIn kind (l.forM f) := by
  intro e he
  obtain ⟨x, hx, he⟩ := forM_eq_error he
  exact h x hx e he

theorem mapM {l : List α} {f : α → Except ε β} (h : ∀ x ∈ l, FaultsIn kind (f x)) :
    FaultsIn kind (l.mapM f) := by
  intro e he
  obtain ⟨x, hx, he⟩ := mapM_eq_error he
  exact h x hx e he

/-- Only those faults count that a step along a list has where what the steps preserve holds. -/
theorem foldlM_of_invariant {l : List α} {f : β → α → Except ε β} {motive : β → Prop} {b : β}
    (hb : motive b) (step : ∀ x ∈ l, ∀ c c', motive c → f c x = .ok c' → motive c')
    (h : ∀ c, motive c → ∀ x ∈ l, FaultsIn kind (f c x)) : FaultsIn kind (l.foldlM f b) := by
  induction l generalizing b with
  | nil => exact ok b
  | cons x l ih =>
    rw [List.foldlM_cons]
    refine (h b hb x List.mem_cons_self).bind fun c hc ↦ ?_
    exact ih (step x List.mem_cons_self b c hb hc)
      (fun y hy ↦ step y (List.mem_cons_of_mem x hy))
      fun d hd y hy ↦ h d hd y (List.mem_cons_of_mem x hy)

theorem foldlM {l : List α} {f : β → α → Except ε β} (h : ∀ b, ∀ x ∈ l, FaultsIn kind (f b x))
    (b : β) : FaultsIn kind (l.foldlM f b) :=
  foldlM_of_invariant (motive := fun _ ↦ True) trivial (fun _ _ _ _ _ _ ↦ trivial) fun c _ ↦ h c

end FaultsIn

/-! ## Computations with the same results -/

/-- Two computations that have the same results, if maybe not the same faults. -/
def Agrees (x y : Except ε α) : Prop := ∀ a, x = .ok a ↔ y = .ok a

namespace Agrees

variable {x y : Except ε α}

theorem rfl : Agrees x x := fun _ ↦ .rfl

theorem of_eq (h : x = y) : Agrees x y := h ▸ .rfl

theorem error (d e : ε) : Agrees (.error d : Except ε α) (.error e) := by simp [Agrees]

theorem bind {f g : α → Except ε β} (h : Agrees x y) (hf : ∀ a, Agrees (f a) (g a)) :
    Agrees (x >>= f) (y >>= g) := by
  intro b
  simp only [bind_eq_ok, h _, hf _ b]

theorem mapM_map {l : List α} {f : β → Except ε γ} {g : α → Except ε γ} {d : α → β}
    (h : ∀ a, Agrees (f (d a)) (g a)) : Agrees ((l.map d).mapM f) (l.mapM g) := by
  induction l with
  | nil => exact .rfl
  | cons a l ih =>
    rw [List.map_cons, List.mapM_cons, List.mapM_cons]
    exact (h a).bind fun _ ↦ ih.bind fun _ ↦ .rfl

theorem foldlM_map {l : List α} {f : γ → β → Except ε γ} {g : γ → α → Except ε γ} {d : α → β}
    (h : ∀ c a, Agrees (f c (d a)) (g c a)) (c : γ) :
    Agrees ((l.map d).foldlM f c) (l.foldlM g c) := by
  induction l generalizing c with
  | nil => exact .rfl
  | cons a l ih =>
    rw [List.map_cons, List.foldlM_cons, List.foldlM_cons]
    exact (h c a).bind ih

end Agrees

end GridPuzzle.Fallible
