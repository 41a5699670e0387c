import ByteMachine.Proofs.Text.Numeral

/-
  Digits of a base, said without the tests and the fold that read them. A character is
  the digit `d` if it is the one that `d` is written with, a letter in either case, and a
  text of digits stands for one number (`Digits`). What is proved:

    1. `digits_iff`: where a test accepts the digits of the base, the texts of digits are
       those whose characters pass it, and each stands for its value in the base.
    2. `Digits.zeros`: zeros in front leave the number as it is.
    3. `built_eq_some_iff`: a number of sixteen bits is built up digit by digit inside of
       sixteen bits, however long its numeral is, and no larger number is.
-/

namespace ByteMachine.Text

/-! ## Digits -/

/-- Whether the character is the digit `d`, a letter in either case. -/
def IsDigit (d : Nat) (c : Char) : Prop := c = d.digitChar ∨ c = d.digitChar.toUpper

instance (d : Nat) (c : Char) : Decidable (IsDigit d c) :=
  inferInstanceAs (Decidable (c = d.digitChar ∨ c = d.digitChar.toUpper))

/-- Whether the digits of the base stand for the number, the last one counting least. -/
inductive Digits (base : Nat) : List Char → Nat → Prop
  | none : Digits base [] 0
  | more {front : List Char} {c : Char} {n d : Nat} (before : Digits base front n) (small : d < base)
      (digit : IsDigit d c) : Digits base (front ++ [c]) (n * base + d)

/-- Whether the test accepts the digits of the base and nothing else. -/
def Tests (p : Char → Bool) (base : Nat) : Prop := ∀ c, p c = true ↔ ∃ d < base, IsDigit d c

theorem IsDigit.value {d : Nat} {c : Char} (h : IsDigit d c) (small : d < 16) : digitValue c = d := by
  have lower : ∀ d < 16, digitValue d.digitChar = d := by decide +kernel
  rcases h with rfl | rfl
  · exact lower d small
  · exact digitValue_upper small

theorem IsDigit.narrow {d : Nat} {c : Char} (h : IsDigit d c) (small : d < 16) : c.toNat < 128 := by
  have all : ∀ d < 16, d.digitChar.toNat < 128 ∧ d.digitChar.toUpper.toNat < 128 := by decide +kernel
  rcases h with rfl | rfl
  · exact (all d small).1
  · exact (all d small).2

/-- A test of characters of ASCII is compared with the digits one character after the other. -/
theorem tests_of_listed {p : Char → Bool} {base : Nat} (few : base ≤ 16)
    (narrow : ∀ c, p c = true → c.toNat < 128)
    (listed : ∀ k < 128, (p (Char.ofNat k) = true ↔ ∃ d < base, IsDigit d (Char.ofNat k))) :
    Tests p base := by
  intro c
  have same : c.toNat < 128 → (p c = true ↔ ∃ d < base, IsDigit d c) := by
    intro small
    have listed := listed c.toNat small
    rwa [Char.ofNat_toNat] at listed
  constructor
  · intro passes
    exact (same (narrow c passes)).mp passes
  · rintro ⟨d, small, digit⟩
    exact (same (digit.narrow (by omega))).mpr ⟨d, small, digit⟩

theorem narrow_of_isHexDigit {c : Char} (h : isHexDigit c = true) : c.toNat < 128 := by
  simp only [isHexDigit, Char.isDigit, Bool.or_eq_true, Bool.and_eq_true, decide_eq_true_eq,
    Char.le_def, UInt32.le_iff_toNat_le] at h
  have : '9'.val.toNat = 57 := rfl
  have : 'F'.val.toNat = 70 := rfl
  have : 'f'.val.toNat = 102 := rfl
  show c.val.toNat < 128
  rcases h with (h | h) | h <;> omega

theorem tests_isDigit : Tests Char.isDigit 10 := by
  refine tests_of_listed (by decide) (fun c passes => narrow_of_isHexDigit ?_) (by decide +kernel)
  simp [isHexDigit, passes]

theorem tests_isHexDigit : Tests isHexDigit 16 :=
  tests_of_listed (by decide) (fun _ => narrow_of_isHexDigit) (by decide +kernel)

theorem tests_isBit : Tests isBit 2 := by
  refine tests_of_listed (by decide) (fun c passes => ?_) (by decide +kernel)
  simp only [isBit, Bool.or_eq_true, beq_iff_eq] at passes
  rcases passes with rfl | rfl <;> decide

/-! ## Texts of digits -/

section Digits
variable {base n : Nat} {digits : List Char}

theorem valueIn_concat (base : Nat) (front : List Char) (c : Char) :
    valueIn base (front ++ [c]) = valueIn base front * base + digitValue c := by
  rw [← numeral_eq_valueIn, numeral_concat, numeral_eq_valueIn]

/-- Digits stand for their value in the base. -/
theorem Digits.eq_valueIn (few : base ≤ 16) (h : Digits base digits n) : n = valueIn base digits := by
  induction h with
  | none => rfl
  | @more front c n d before small digit ih =>
    rw [valueIn_concat, ← ih, digit.value (by omega)]

/-- The texts of digits are those that pass the test for each character. -/
theorem digits_iff {p : Char → Bool} (tests : Tests p base) (few : base ≤ 16) :
    Digits base digits n ↔ (∀ c ∈ digits, p c = true) ∧ n = valueIn base digits := by
  constructor
  · intro h
    refine ⟨?_, h.eq_valueIn few⟩
    induction h with
    | none => simp
    | @more front c n d before small digit ih =>
      refine List.forall_mem_append.mpr ⟨ih, ?_⟩
      exact List.forall_mem_singleton.mpr ((tests c).mpr ⟨d, small, digit⟩)
  · rintro ⟨all, rfl⟩
    induction digits using List.reverseRecOn with
    | nil => exact .none
    | append_singleton front c ih =>
      obtain ⟨before, last⟩ := List.forall_mem_append.mp all
      obtain ⟨d, small, digit⟩ := (tests c).mp (last c (List.mem_singleton_self c))
      rw [valueIn_concat, digit.value (by omega)]
      exact .more (ih before) small digit

/-- Zeros in front leave the number as it is. -/
theorem Digits.zeros (pos : 0 < base) (h : Digits base digits n) (count : Nat) :
    Digits base (List.replicate count '0' ++ digits) n := by
  induction h with
  | none =>
    rw [List.append_nil]
    induction count with
    | zero => exact .none
    | succ count ih =>
      rw [List.replicate_succ']
      simpa using ih.more pos (.inl rfl : IsDigit 0 '0')
  | more before small digit ih =>
    rw [← List.append_assoc]
    exact .more ih small digit

end Digits

/-! ## Numbers of sixteen bits -/

/-- The number in sixteen bits, if it has no more of them. -/
def narrowed (n : Nat) : Option UInt16 := if n ≤ 65535 then some (UInt16.ofNat n) else none

/-- The number with one more digit behind it, if neither step to it leaves the sixteen bits. -/
def withDigit (base : UInt16) (n : UInt16) (c : Char) : Option UInt16 := do
  let higher ← narrowed (n.toNat * base.toNat)
  narrowed (higher.toNat + digitValue c)

/-- The number of the digits, built up from the first one to the last. -/
def built (base : UInt16) (digits : List Char) : Option UInt16 := digits.foldlM (withDigit base) 0

theorem narrowed_eq_some_iff {n : Nat} {m : UInt16} : narrowed n = some m ↔ n = m.toNat := by
  have := m.toNat_lt
  rw [narrowed, Option.ite_none_right_eq_some, Option.some_inj, ← UInt16.toNat_inj,
    UInt16.toNat_ofNat']
  omega

theorem withDigit_eq_some_iff {base n m : UInt16} {c : Char} :
    withDigit base n c = some m ↔ n.toNat * base.toNat + digitValue c = m.toNat := by
  have := m.toNat_lt
  simp only [withDigit, Option.bind_eq_bind, Option.bind_eq_some_iff, narrowed_eq_some_iff]
  constructor
  · rintro ⟨higher, product, sum⟩
    rw [product, sum]
  · intro sum
    refine ⟨UInt16.ofNat (n.toNat * base.toNat), ?_, ?_⟩
    · rw [UInt16.toNat_ofNat']
      omega
    · rw [UInt16.toNat_ofNat']
      omega

/-- A number that has sixteen bits in the end has no more on the way. -/
theorem built_eq_some_iff {base m : UInt16} (pos : 0 < base.toNat) {digits : List Char} :
    built base digits = some m ↔ valueIn base.toNat digits = m.toNat := by
  induction digits using List.reverseRecOn generalizing m with
  | nil =>
    rw [built, List.foldlM_nil]
    simp [valueIn, ← UInt16.toNat_inj]
  | append_singleton front c ih =>
    have step : built base (front ++ [c]) = built base front >>= fun n => withDigit base n c := by
      simp [built, List.foldlM_append]
    simp only [step, Option.bind_eq_bind, Option.bind_eq_some_iff, ih, withDigit_eq_some_iff]
    rw [valueIn_concat]
    constructor
    · rintro ⟨n, before, sum⟩
      rw [before, sum]
    · intro sum
      -- What is in front of the last digit is no larger than the whole.
      have grows : valueIn base.toNat front ≤ valueIn base.toNat front * base.toNat :=
        Nat.le_mul_of_pos_right _ pos
      have := m.toNat_lt
      have fits : (UInt16.ofNat (valueIn base.toNat front)).toNat = valueIn base.toNat front := by
        rw [UInt16.toNat_ofNat']
        omega
      exact ⟨UInt16.ofNat (valueIn base.toNat front), fits.symm, by rw [fits, sum]⟩

end ByteMachine.Text
