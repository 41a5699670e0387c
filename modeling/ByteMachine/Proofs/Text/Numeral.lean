import Mathlib
import ByteMachine.Text.Numeral

/-
  Numerals written and read back. The decimal digits of a number stand for the
  number, and so do the hexadecimal ones, of which two are enough for a byte. In
  base two a fixed number of digits and the numbers below that power of two
  determine each other.
-/

namespace ByteMachine.Text

theorem digitValue_of_isDigit {c : Char} (h : c.isDigit = true) :
    digitValue c = c.toNat - '0'.toNat := by
  rw [digitValue, if_pos h]

/-- On digits of base ten at most, the value is that of the standard library. -/
theorem numeral_eq_ofDigitChars (base : Nat) {digits : List Char}
    (h : ∀ c ∈ digits, c.isDigit = true) : numeral base digits = Nat.ofDigitChars base digits 0 := by
  unfold numeral
  generalize 0 = start
  induction digits generalizing start with
  | nil => rfl
  | cons c digits ih =>
    rw [List.foldl_cons, Nat.ofDigitChars_cons, digitValue_of_isDigit (h c (by simp)),
      ih fun d hd => h d (by simp [hd]), Nat.mul_comm]

/-- The number whose digits in the base are these, the last one least. -/
def valueIn (base : Nat) (digits : List Char) : Nat :=
  Nat.ofDigits base (digits.reverse.map digitValue)

/-- Digits of any base stand for the number that has them. -/
theorem numeral_eq_valueIn (base : Nat) (digits : List Char) :
    numeral base digits = valueIn base digits := by
  induction digits using List.reverseRecOn with
  | nil => rfl
  | append_singleton digits c ih =>
    rw [numeral_concat, ih, valueIn, valueIn, List.reverse_concat, List.map_cons, Nat.ofDigits_cons,
      Nat.mul_comm, Nat.add_comm]

theorem isDigit_of_mem_decimal {n : Nat} {c : Char} (h : c ∈ Nat.toDigits 10 n) :
    c.isDigit = true :=
  Nat.isDigit_of_mem_toDigits (by decide) (by decide) h

/-- The decimal digits of a number stand for it. -/
theorem numeral_toDigits (n : Nat) : numeral 10 (Nat.toDigits 10 n) = n := by
  rw [numeral_eq_ofDigitChars 10 fun c hc => isDigit_of_mem_decimal hc,
    Nat.ofDigitChars_ten_toDigits]

/-! ## Hexadecimal digits -/

/-- What a number is written with in a base are the digits of the base. -/
theorem exists_digitChar_of_mem {base n : Nat} (hb : 1 < base) {c : Char}
    (hc : c ∈ Nat.toDigits base n) : ∃ d, d < base ∧ c = d.digitChar := by
  induction n using Nat.strongRecOn with
  | ind n ih =>
    rw [Nat.toDigits_eq_if hb] at hc
    split at hc
    · next small =>
      exact ⟨n, small, List.mem_singleton.mp hc⟩
    · next large =>
      rcases List.mem_append.mp hc with hc | hc
      · exact ih (n / base) (Nat.div_lt_self (by omega) hb) hc
      · exact ⟨n % base, Nat.mod_lt n (by omega), List.mem_singleton.mp hc⟩

theorem length_toDigits_le_two {n : Nat} (h : n < 256) : (Nat.toDigits 16 n).length ≤ 2 :=
  (Nat.length_toDigits_le_iff (by decide) (by decide)).mpr h

/-- A byte is shown with two hexadecimal digits. -/
theorem length_upperHex {n : Nat} (h : n < 256) : (upperHex n).length = 2 := by
  have := length_toDigits_le_two h
  simp only [upperHex, padded, String.length_ofList, List.length_map, List.length_append,
    List.length_replicate]
  omega

theorem digitValue_upper {d : Nat} (h : d < 16) : digitValue d.digitChar.toUpper = d := by
  have all : ∀ d < 16, digitValue d.digitChar.toUpper = d := by decide +kernel
  exact all d h

/-- Zeros in front of a numeral do not count. -/
theorem numeral_zeros (base count : Nat) (digits : List Char) :
    numeral base (List.replicate count '0' ++ digits) = numeral base digits := by
  induction count with
  | zero => rfl
  | succ count ih =>
    have none : 0 * base + digitValue '0' = 0 := by rw [Nat.zero_mul]; rfl
    rw [← ih, List.replicate_succ, List.cons_append, numeral, List.foldl_cons, none, numeral]

/-- The hexadecimal digits of a number stand for it. -/
theorem numeral_upperHex (n : Nat) : numeral 16 (upperHex n).toList = n := by
  have digits : ∀ n, numeral 16 ((Nat.toDigits 16 n).map Char.toUpper) = n := by
    intro n
    induction n using Nat.strongRecOn with
    | ind n ih =>
      rw [Nat.toDigits_eq_if (by decide)]
      split
      · next small => simpa [numeral] using digitValue_upper small
      · next large =>
        have last : digitValue (n % 16).digitChar.toUpper = n % 16 :=
          digitValue_upper (Nat.mod_lt n (by decide))
        rw [List.map_append, List.map_singleton, numeral_concat, ih (n / 16) (by omega), last]
        omega
  have zero : '0'.toUpper = '0' := by decide
  rw [upperHex, String.toList_ofList, padded, List.map_append, List.map_replicate, zero,
    numeral_zeros, digits]

/-! ## Binary digits -/

/-- The last `width` binary digits of a number. -/
def bitDigits : Nat → Nat → List Char
  | 0, _ => []
  | width + 1, n => bitDigits width (n / 2) ++ [(n % 2).digitChar]

theorem length_bitDigits : ∀ width n, (bitDigits width n).length = width
  | 0, _ => rfl
  | width + 1, n => by simp [bitDigits, length_bitDigits width]

theorem bitDigits_zero : ∀ width, bitDigits width 0 = List.replicate width '0'
  | 0 => rfl
  | width + 1 => by
    rw [bitDigits, Nat.zero_div, bitDigits_zero width, List.replicate_succ']
    rfl

theorem digitValue_bit (n : Nat) : digitValue (n % 2).digitChar = n % 2 := by
  have h : n % 2 = 0 ∨ n % 2 = 1 := by omega
  rcases h with h | h <;> rw [h] <;> rfl

theorem isBit_of_mem_bitDigits : ∀ {width n : Nat} {c : Char}, c ∈ bitDigits width n → isBit c = true
  | width + 1, n, c, hc => by
    rcases List.mem_append.mp hc with hc | hc
    · exact isBit_of_mem_bitDigits hc
    · have h : n % 2 = 0 ∨ n % 2 = 1 := by omega
      rw [List.mem_singleton.mp hc]
      rcases h with h | h <;> rw [h] <;> rfl

/-- So many digits are enough for a number below the power of two. -/
theorem numeral_bitDigits : ∀ {width n : Nat}, n < 2 ^ width → numeral 2 (bitDigits width n) = n
  | 0, n, h => by
    have : n = 0 := by simpa using h
    subst this; rfl
  | width + 1, n, h => by
    have half : n / 2 < 2 ^ width := by
      rw [Nat.pow_succ] at h
      omega
    rw [bitDigits, numeral_concat, numeral_bitDigits half, digitValue_bit]
    omega

theorem numeral_lt_two_pow {l : List Char} (h : ∀ c ∈ l, isBit c = true) :
    numeral 2 l < 2 ^ l.length := by
  induction l using List.reverseRecOn with
  | nil => simp [numeral_nil]
  | append_singleton l c ih =>
    have front := ih fun d hd => h d (by simp [hd])
    have last : digitValue c < 2 := by
      have := h c (by simp)
      simp only [isBit, Bool.or_eq_true, beq_iff_eq] at this
      rcases this with rfl | rfl <;> decide
    rw [numeral_concat, List.length_append, List.length_singleton, Nat.pow_succ]
    omega

/-- Digits of base two are those of the number that they stand for. -/
theorem bitDigits_numeral {l : List Char} (h : ∀ c ∈ l, isBit c = true) :
    bitDigits l.length (numeral 2 l) = l := by
  induction l using List.reverseRecOn with
  | nil => rfl
  | append_singleton l c ih =>
    have front := ih fun d hd => h d (by simp [hd])
    have last : digitValue c < 2 ∧ (digitValue c).digitChar = c := by
      have := h c (by simp)
      simp only [isBit, Bool.or_eq_true, beq_iff_eq] at this
      rcases this with rfl | rfl <;> decide
    have quotient : (numeral 2 l * 2 + digitValue c) / 2 = numeral 2 l := by omega
    have remainder : (numeral 2 l * 2 + digitValue c) % 2 = digitValue c := by omega
    rw [numeral_concat, List.length_append, List.length_singleton, bitDigits, quotient, remainder,
      front, last.2]

/-- A number that is padded with zeros has just these digits. -/
theorem padded_eq_bitDigits : ∀ {width n : Nat}, 0 < width → n < 2 ^ width →
    padded 2 width n = bitDigits width n
  | width + 1, n, _, h => by
    by_cases small : n < 2
    · have half : n / 2 = 0 := by omega
      have digits : Nat.toDigits 2 n = [(n % 2).digitChar] := by
        rw [Nat.toDigits_of_lt_base small, Nat.mod_eq_of_lt small]
      rw [bitDigits, half, bitDigits_zero, padded, digits]
      rfl
    · have half : n / 2 < 2 ^ width := by
        rw [Nat.pow_succ] at h
        omega
      have more : 0 < width := by
        rcases Nat.eq_zero_or_pos width with rfl | more
        · simp at half; omega
        · exact more
      have digits : Nat.toDigits 2 n = Nat.toDigits 2 (n / 2) ++ [(n % 2).digitChar] := by
        rw [Nat.toDigits_eq_if (by decide), if_neg small]
      rw [bitDigits, ← padded_eq_bitDigits more half, padded, padded, digits, List.length_append,
        List.length_singleton, Nat.add_sub_add_right, List.append_assoc]

theorem toList_bits (b : UInt8) : (bits b).toList = bitDigits 8 b.toNat := by
  have small : b.toNat < 2 ^ 8 := b.toNat_lt
  rw [bits, String.toList_ofList, padded_eq_bitDigits (by decide) small]

end ByteMachine.Text
