/-
  Computations that may fail, taken apart: a sequence succeeds when each of its
  parts does, and so does a computation done for every element of a list. Where
  several things may be wrong, one at each number, the first one is reported.
-/

namespace ByteMachine

variable {ε α β : Type}

theorem bind_eq_ok_iff {x : Except ε α} {f : α → Except ε β} {b : β} :
    x >>= f = .ok b ↔ ∃ a, x = .ok a ∧ f a = .ok b := by
  cases x with
  | error e =>
    constructor
    · intro h; cases h
    · rintro ⟨_, h, _⟩; cases h
  | ok a =>
    constructor
    · intro h; exact ⟨a, rfl, h⟩
    · rintro ⟨_, h, k⟩; cases h; exact k

theorem bind_eq_error_iff {x : Except ε α} {f : α → Except ε β} {e : ε} :
    x >>= f = .error e ↔ x = .error e ∨ ∃ a, x = .ok a ∧ f a = .error e := by
  cases x with
  | error d =>
    constructor
    · intro h; cases h; exact .inl rfl
    · rintro (h | ⟨_, h, _⟩)
      · cases h; rfl
      · cases h
  | ok a =>
    constructor
    · intro h; exact .inr ⟨a, rfl, h⟩
    · rintro (h | ⟨_, h, k⟩)
      · cases h
      · cases h; exact k

@[simp] theorem ok_bind (a : α) (f : α → Except ε β) : (Except.ok a >>= f) = f a := rfl

@[simp] theorem pure_eq_ok (a : α) : (pure a : Except ε α) = .ok a := rfl

theorem mapM_cons_eq_ok_iff {f : α → Except ε β} {a : α} {as : List α} {bs : List β} :
    (a :: as).mapM f = .ok bs ↔ ∃ b rest, f a = .ok b ∧ as.mapM f = .ok rest ∧ bs = b :: rest := by
  rw [List.mapM_cons, bind_eq_ok_iff]
  constructor
  · rintro ⟨b, hb, h⟩
    obtain ⟨rest, hr, h⟩ := bind_eq_ok_iff.mp h
    cases h
    exact ⟨b, rest, hb, hr, rfl⟩
  · rintro ⟨b, rest, hb, hr, rfl⟩
    exact ⟨b, hb, bind_eq_ok_iff.mpr ⟨rest, hr, rfl⟩⟩

/-! ## The first fault -/

/-- The fault at the number, when there is none at a smaller one. -/
structure FirstAt (fault : Nat → ε → Prop) (k : Nat) (e : ε) : Prop where
  here : fault k e
  none : ∀ j < k, ∀ d, ¬ fault j d

section First
variable {fault : Nat → ε → Prop} {d e : ε} {j k : Nat}

theorem FirstAt.zero (here : fault 0 e) : FirstAt fault 0 e := ⟨here, nofun⟩

theorem FirstAt.succ (none : ∀ d, ¬ fault 0 d) (first : FirstAt (fun j => fault (j + 1)) k e) :
    FirstAt fault (k + 1) e := by
  refine ⟨first.here, ?_⟩
  intro j less d
  cases j with
  | zero => exact none d
  | succ j => exact first.none j (Nat.lt_of_succ_lt_succ less) d

/-- The first fault is the one at zero, or the first one behind it if there is none at zero. -/
theorem exists_firstAt_iff : (∃ k, FirstAt fault k e) ↔
    fault 0 e ∨ (∀ d, ¬ fault 0 d) ∧ ∃ k, FirstAt (fun j => fault (j + 1)) k e := by
  constructor
  · rintro ⟨k, here, none⟩
    cases k with
    | zero => exact .inl here
    | succ k =>
      refine .inr ⟨none 0 (Nat.succ_pos k), k, here, ?_⟩
      exact fun j less => none (j + 1) (Nat.succ_lt_succ less)
  · rintro (here | ⟨fine, k, first⟩)
    · exact ⟨0, .zero here⟩
    · exact ⟨k + 1, .succ fine first⟩

/-- Only one fault is the first. -/
theorem FirstAt.unique (once : ∀ i d e, fault i d → fault i e → d = e)
    (first : FirstAt fault j d) (other : FirstAt fault k e) : d = e := by
  obtain less | same | less := Nat.lt_trichotomy j k
  · exact absurd first.here (other.none j less d)
  · subst same
    exact once j d e first.here other.here
  · exact absurd other.here (first.none k less e)

end First

end ByteMachine
