import Mathlib.Data.Nat.Digits.Defs
import ByteMachine.Image.BinaryText
import ByteMachine.Proofs.Answer
import ByteMachine.Proofs.Text.Blank
import ByteMachine.Proofs.Text.Lines
import ByteMachine.Proofs.Text.Numeral

/-
  Which texts describe images. A line holds what is left in front of its comment without the
  blanks around it. A text describes an image if each of its lines holds nothing or one to
  eight digits, zeros and ones and no other character: no sign, no separator and no mark of
  the base. The image then has the numbers that these digits stand for, as many as there are.
  Any other text is refused for the first line that holds something else
  (`binary_text_format`).
-/

namespace ByteMachine.Image

/-- What a line holds in front of its comment, without the blanks around it. -/
inductive Holds : List Char → List Char → Prop
  | plain {line rest : List Char} (none : '#' ∉ line) (trimmed : Text.Trimmed line rest) :
      Holds line rest
  | comment {front comment rest : List Char} (none : '#' ∉ front)
      (trimmed : Text.Trimmed front rest) : Holds (front ++ '#' :: comment) rest

/-- Whether the text is one to eight binary digits. -/
structure IsLiteral (literal : List Char) : Prop where
  present : literal ≠ []
  short : literal.length ≤ 8
  digits : ∀ c ∈ literal, c = '0' ∨ c = '1'

/-- The number that binary digits stand for, the last one counting least. -/
def valueOf (literal : List Char) : Nat :=
  Nat.ofDigits 2 (literal.reverse.map fun c => if c = '1' then 1 else 0)

/-- Whether every line holds nothing or a literal, and the bytes are what the literals stand for. -/
def Describes (lines : List (List Char)) (bytes : List UInt8) : Prop :=
  ∃ held, List.Forall₂ Holds lines held ∧ (∀ rest ∈ held, rest = [] ∨ IsLiteral rest) ∧
    bytes.map UInt8.toNat = (held.filter (· ≠ [])).map valueOf

/-- What is wrong with line `k`, counted from 0, when the first line has the number `first`. -/
inductive BadLine (first : Nat) (lines : List (List Char)) (k : Nat) : BadLiteral → Prop
  | mk {line rest : List Char} (here : lines[k]? = some line) (holds : Holds line rest)
      (present : rest ≠ []) (other : ¬ IsLiteral rest) :
      BadLine first lines k ⟨first + k, String.ofList rest⟩

/-! ## What lines hold -/

theorem holds_iff {line rest : List Char} : Holds line rest ↔ rest = literalOf line := by
  constructor
  · intro h
    cases h with
    | plain none trimmed =>
      rw [literalOf, List.takeWhile_eq_self_iff.mpr (Text.bne_of_not_mem none)]
      exact Text.trimmed_iff.mp trimmed
    | comment none trimmed =>
      rw [literalOf, List.takeWhile_append_of_pos (Text.bne_of_not_mem none),
        List.takeWhile_cons_of_neg (by simp), List.append_nil]
      exact Text.trimmed_iff.mp trimmed
  · rintro rfl
    have none : '#' ∉ line.takeWhile (· != '#') := fun mem => by
      simpa using List.mem_takeWhile_imp mem
    have whole : line.takeWhile (· != '#') ++ line.dropWhile (· != '#') = line :=
      List.takeWhile_append_dropWhile
    cases rest : line.dropWhile (· != '#') with
    | nil =>
      rw [rest, List.append_nil] at whole
      rw [literalOf, whole]
      rw [whole] at none
      exact .plain none (Text.trimmed_trim line)
    | cons c comment =>
      have stop := List.head?_dropWhile_not (· != '#') line
      rw [rest] at stop
      have mark : c = '#' := by simpa using stop
      rw [rest, mark] at whole
      have held : Holds (_ ++ '#' :: comment) _ := .comment none (Text.trimmed_trim _)
      rwa [whole] at held

/-! ## Literals -/

section Literals
variable {literal : List Char} {b : UInt8}

theorem isBit_iff {c : Char} : Text.isBit c = true ↔ c = '0' ∨ c = '1' := by
  simp [Text.isBit]

theorem numeral_eq_valueOf (digits : ∀ c ∈ literal, c = '0' ∨ c = '1') :
    Text.numeral 2 literal = valueOf literal := by
  rw [Text.numeral_eq_valueIn, Text.valueIn, valueOf]
  refine congrArg (Nat.ofDigits 2) (List.map_congr_left fun c mem => ?_)
  rcases digits c (List.mem_reverse.mp mem) with rfl | rfl <;> decide

theorem isLiteral_iff :
    IsLiteral literal ↔ literal ≠ [] ∧ literal.length ≤ 8 ∧ literal.all Text.isBit = true := by
  rw [List.all_eq_true]
  simp only [isBit_iff]
  constructor
  · rintro ⟨present, short, digits⟩
    exact ⟨present, short, digits⟩
  · rintro ⟨present, short, digits⟩
    exact ⟨present, short, digits⟩

theorem byteOf?_eq_none_iff : byteOf? literal = none ↔ ¬ IsLiteral literal := by
  rw [byteOf?, isLiteral_iff]
  simp only [ite_eq_right_iff, reduceCtorEq, imp_false]

/-- Eight digits stand for less than 256, so nothing is lost in a byte. -/
theorem byteOf?_eq_some_iff :
    byteOf? literal = some b ↔ IsLiteral literal ∧ b.toNat = valueOf literal := by
  rw [byteOf?, Option.ite_none_right_eq_some, ← isLiteral_iff]
  refine and_congr_right fun form => ?_
  have small : Text.numeral 2 literal < 2 ^ 8 :=
    Nat.lt_of_lt_of_le (Text.numeral_lt_two_pow fun c mem => isBit_iff.mpr (form.digits c mem))
      (Nat.pow_le_pow_right (by decide) form.short)
  rw [← numeral_eq_valueOf form.digits, Option.some_inj, ← UInt8.toNat_inj,
    UInt8.toNat_ofNat_of_lt' small, eq_comm]

end Literals

/-! ## Lines of literals -/

section Lines
variable {first : Nat} {line : List Char} {lines : List (List Char)} {bytes : List UInt8}
  {e : BadLiteral}

theorem describes_nil : Describes [] bytes ↔ bytes = [] := by
  simp [Describes]

theorem describes_cons : Describes (line :: lines) bytes ↔
    literalOf line = [] ∧ Describes lines bytes ∨
      IsLiteral (literalOf line) ∧ ∃ b rest, bytes = b :: rest ∧
        b.toNat = valueOf (literalOf line) ∧ Describes lines rest := by
  constructor
  · rintro ⟨held, holds, forms, values⟩
    obtain ⟨literal, held, first, others, rfl⟩ := List.forall₂_cons_left_iff.mp holds
    obtain rfl := holds_iff.mp first
    obtain ⟨form, forms⟩ := List.forall_mem_cons.mp forms
    by_cases empty : literalOf line = []
    · rw [List.filter_cons_of_neg (by simpa using empty)] at values
      exact .inl ⟨empty, held, others, forms, values⟩
    · rw [List.filter_cons_of_pos (by simpa using empty), List.map_cons] at values
      obtain ⟨b, rest, rfl, value, values⟩ := List.map_eq_cons_iff.mp values
      exact .inr ⟨form.resolve_left empty, b, rest, rfl, value, held, others, forms, values⟩
  · rintro (⟨empty, held, holds, forms, values⟩ |
      ⟨form, b, rest, rfl, value, held, holds, forms, values⟩)
    · refine ⟨[] :: held, .cons (holds_iff.mpr empty.symm) holds, ?_, ?_⟩
      · exact List.forall_mem_cons.mpr ⟨.inl rfl, forms⟩
      · rwa [List.filter_cons_of_neg (by simp)]
    · refine ⟨literalOf line :: held, .cons (holds_iff.mpr rfl) holds, ?_, ?_⟩
      · exact List.forall_mem_cons.mpr ⟨.inr form, forms⟩
      · rw [List.filter_cons_of_pos (by simpa using form.present), List.map_cons, List.map_cons,
          value, values]

theorem Describes.empty_or (h : Describes lines bytes) (mem : line ∈ lines) {rest : List Char}
    (holds : Holds line rest) : rest = [] ∨ IsLiteral rest := by
  obtain rfl := holds_iff.mp holds
  induction lines generalizing bytes with
  | nil => cases mem
  | cons first lines ih =>
    obtain ⟨empty, others⟩ | ⟨form, b, bytes, -, -, others⟩ := describes_cons.mp h
    · obtain rfl | mem := List.mem_cons.mp mem
      · exact .inl empty
      · exact ih others mem
    · obtain rfl | mem := List.mem_cons.mp mem
      · exact .inr form
      · exact ih others mem

theorem bytesOfLines_eq_ok_iff : bytesOfLines first lines = .ok bytes ↔ Describes lines bytes := by
  induction lines generalizing first bytes with
  | nil =>
    rw [describes_nil, bytesOfLines, Except.ok.injEq, eq_comm]
  | cons line lines ih =>
    rw [bytesOfLines, describes_cons]
    split
    · next empty =>
      rw [ih, and_iff_right empty, or_iff_left fun h => h.1.present empty]
    · next present =>
      rw [or_iff_right fun h => present h.1]
      cases found : byteOf? (literalOf line) with
      | none => exact iff_of_false nofun fun h => byteOf?_eq_none_iff.mp found h.1
      | some b =>
        obtain ⟨form, value⟩ := byteOf?_eq_some_iff.mp found
        rw [and_iff_right form]
        constructor
        · intro h
          obtain ⟨rest, read, h⟩ := bind_eq_ok_iff.mp h
          cases h
          exact ⟨b, rest, rfl, value, ih.mp read⟩
        · rintro ⟨c, rest, rfl, value', described⟩
          obtain rfl := UInt8.toNat_inj.mp (value.trans value'.symm)
          exact bind_eq_ok_iff.mpr ⟨rest, ih.mpr described, rfl⟩

theorem badLine_zero : BadLine first (line :: lines) 0 e ↔
    literalOf line ≠ [] ∧ ¬ IsLiteral (literalOf line) ∧
      e = ⟨first, String.ofList (literalOf line)⟩ := by
  constructor
  · rintro ⟨here, holds, present, other⟩
    cases here
    obtain rfl := holds_iff.mp holds
    exact ⟨present, other, rfl⟩
  · rintro ⟨present, other, rfl⟩
    exact .mk rfl (holds_iff.mpr rfl) present other

theorem badLine_succ {k : Nat} :
    BadLine first (line :: lines) (k + 1) e ↔ BadLine (first + 1) lines k e := by
  constructor
  · rintro ⟨here, holds, present, other⟩
    rw [← Nat.add_assoc, Nat.add_right_comm]
    exact .mk here holds present other
  · rintro ⟨here, holds, present, other⟩
    rw [Nat.add_right_comm, Nat.add_assoc]
    exact .mk here holds present other

theorem bytesOfLines_eq_error_iff :
    bytesOfLines first lines = .error e ↔ ∃ k, FirstAt (BadLine first lines) k e := by
  induction lines generalizing first with
  | nil =>
    refine iff_of_false nofun ?_
    rintro ⟨k, ⟨here⟩, -⟩
    simp at here
  | cons line lines ih =>
    have behind : (fun k => BadLine first (line :: lines) (k + 1)) = BadLine (first + 1) lines := by
      funext k d
      exact propext badLine_succ
    rw [bytesOfLines, exists_firstAt_iff, behind, ← ih]
    simp only [badLine_zero]
    split
    · next empty =>
      rw [or_iff_right fun h => h.1 empty, and_iff_right fun d h => h.1 empty]
    · next present =>
      cases found : byteOf? (literalOf line) with
      | none =>
        have other := byteOf?_eq_none_iff.mp found
        rw [and_iff_right present, and_iff_right other,
          or_iff_left fun h => h.1 _ ⟨present, other, rfl⟩, Except.error.injEq, eq_comm]
      | some b =>
        have form := (byteOf?_eq_some_iff.mp found).1
        rw [or_iff_right fun h => h.2.1 form, and_iff_right fun d h => h.2.1 form]
        refine bind_eq_error_iff.trans (or_iff_left ?_)
        rintro ⟨rest, -, none⟩
        cases none

end Lines

/-- A text describes an image just if each line holds nothing or one to eight binary digits, and the
image has the numbers that the digits stand for, in the order of the lines. Otherwise the text is
refused for the first line that holds something else. So a ninth digit is never read, nor is any
character that is not a binary digit. -/
theorem binary_text_format (text : String) :
    (∀ image, ofBinaryText text = .ok image ↔
      Describes (Text.lines text.toList) image.bytes) ∧
    (∀ e, ofBinaryText text = .error e ↔
      ∃ k, FirstAt (BadLine 1 (Text.lines text.toList)) k e) ∧
    ∀ line ∈ Text.lines text.toList, ∀ rest, Holds line rest →
      8 < rest.length ∨ (∃ c ∈ rest, c ≠ '0' ∧ c ≠ '1') → ∃ e, ofBinaryText text = .error e := by
  have accepted : ∀ image, ofBinaryText text = .ok image ↔
      Describes (Text.lines text.toList) image.bytes := by
    intro image
    have read : bytesOfLines 1 (Text.lines text.toList) = .ok image.bytes ↔
      Describes (Text.lines text.toList) image.bytes := bytesOfLines_eq_ok_iff
    rw [ofBinaryText, bind_eq_ok_iff, ← read]
    constructor
    · rintro ⟨bytes, lines, same⟩
      cases same
      exact lines
    · exact fun lines => ⟨image.bytes, lines, rfl⟩
  refine ⟨accepted, ?_, ?_⟩
  · intro e
    rw [ofBinaryText, ← bytesOfLines_eq_error_iff]
    refine bind_eq_error_iff.trans (or_iff_left ?_)
    rintro ⟨bytes, -, none⟩
    cases none
  · intro line mem rest holds wrong
    cases read : ofBinaryText text with
    | error e => exact ⟨e, rfl⟩
    | ok image =>
      exfalso
      rcases ((accepted image).mp read).empty_or mem holds with rfl | form
      · simp at wrong
      · obtain long | ⟨c, inside, zero, one⟩ := wrong
        · exact Nat.not_le.mpr long form.short
        · exact (form.digits c inside).elim zero one

/-- Blanks that are not ASCII, a comment alone, a returned line and digits with and without zeros in
front; then a sign, a ninth digit, and the second of two bad lines. -/
example : ofBinaryText "\u3000 1 # one\n#\n\r\n0000011\r\n11111111" = .ok ⟨[1, 3, 255]⟩ ∧
    ofBinaryText "1\n\n +1 # sign" = .error ⟨3, "+1"⟩ ∧
    ofBinaryText "000000001\n0b1" = .error ⟨1, "000000001"⟩ := by
  refine ⟨?_, ?_, ?_⟩ <;> cbv

end ByteMachine.Image
