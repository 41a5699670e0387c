import Mathlib.Data.List.TakeWhile
import ByteMachine.Image.BinaryText
import ByteMachine.Proofs.Answer
import ByteMachine.Proofs.Text.Blank
import ByteMachine.Proofs.Text.Lines
import ByteMachine.Proofs.Text.Numeral

/-
  Binary text written and read back. Reading forgives much: comments, blanks, empty
  lines, and bytes of fewer than eight digits. Writing knows one form only, eight
  digits and a newline for each byte. `binary_text_round_trip` says that this form
  is read back to the image it was written from, of whatever size, that no other text
  of this form describes the image, and so that rewriting a text which can be read at
  all gives a text that is rewritten to itself.
-/

namespace ByteMachine.Image

open Text (isBit bits numeral)

/-! ## Lines of eight digits -/

/-- Whether the text is eight binary digits. -/
def EightBits (l : List Char) : Prop := l.length = 8 ∧ ∀ c ∈ l, isBit c = true

theorem eightBits_bits (b : UInt8) : EightBits (bits b).toList := by
  rw [Text.toList_bits]
  exact ⟨Text.length_bitDigits 8 b.toNat, fun _ => Text.isBit_of_mem_bitDigits⟩

/-- Eight digits are what the byte that they stand for is written with. -/
theorem bits_numeral {l : List Char} (h : EightBits l) :
    (bits (UInt8.ofNat (numeral 2 l))).toList = l := by
  have small : numeral 2 l < 256 := by
    have := Text.numeral_lt_two_pow h.2
    rwa [h.1] at this
  calc (bits (UInt8.ofNat (numeral 2 l))).toList
      = Text.bitDigits 8 (numeral 2 l) := by rw [Text.toList_bits, UInt8.toNat_ofNat_of_lt' small]
    _ = Text.bitDigits l.length (numeral 2 l) := by rw [h.1]
    _ = l := Text.bitDigits_numeral h.2

theorem numeral_bits (b : UInt8) : UInt8.ofNat (numeral 2 (bits b).toList) = b := by
  have small : b.toNat < 2 ^ 8 := b.toNat_lt
  rw [Text.toList_bits, Text.numeral_bitDigits small, UInt8.ofNat_toNat]

theorem apart_of_isBit {c : Char} (h : isBit c = true) :
    c ≠ '#' ∧ Text.isBlank c = false ∧ c ≠ '\n' ∧ c ≠ '\r' := by
  simp only [isBit, Bool.or_eq_true, beq_iff_eq] at h
  rcases h with rfl | rfl <;> decide

theorem utf8Size_of_isBit {c : Char} (h : isBit c = true) : c.utf8Size = 1 := by
  simp only [isBit, Bool.or_eq_true, beq_iff_eq] at h
  rcases h with rfl | rfl <;> rfl

theorem trim_of_no_blanks {cs : List Char} (h : ∀ c ∈ cs, Text.isBlank c = false) :
    Text.trim cs = cs := by
  have trimmed : Text.Trimmed cs cs :=
    ⟨⟨[], [], by simp, by simp [Text.Blanks], by simp [Text.Blanks]⟩,
      fun c mem => h c (List.mem_of_mem_head? mem), fun c mem => h c (List.mem_of_getLast? mem)⟩
  exact (Text.trimmed_iff.mp trimmed).symm

/-- Digits alone on a line are all that the line holds. -/
theorem literalOf_of_bits {l : List Char} (h : ∀ c ∈ l, isBit c = true) : literalOf l = l := by
  have whole : l.takeWhile (· != '#') = l :=
    List.takeWhile_eq_self_iff.mpr fun c hc => by simpa using (apart_of_isBit (h c hc)).1
  rw [literalOf, whole, trim_of_no_blanks fun c hc => (apart_of_isBit (h c hc)).2.1]

theorem bytesOfLines_of_eightBits : ∀ (line : Nat) {ls : List (List Char)},
    (∀ l ∈ ls, EightBits l) →
    bytesOfLines line ls = .ok (ls.map fun l => UInt8.ofNat (numeral 2 l))
  | _, [], _ => rfl
  | line, l :: ls, h => by
    obtain ⟨eight, digits⟩ := h l (by simp)
    have ne : l ≠ [] := by
      intro none
      simp [none] at eight
    have byte : byteOf? l = some (UInt8.ofNat (numeral 2 l)) :=
      if_pos ⟨ne, Nat.le_of_eq eight, List.all_eq_true.mpr digits⟩
    have rest : bytesOfLines (line + 1) ls = .ok (ls.map fun l => UInt8.ofNat (numeral 2 l)) :=
      bytesOfLines_of_eightBits (line + 1) fun x hx => h x (by simp [hx])
    rw [bytesOfLines, literalOf_of_bits digits]
    simp only [if_neg ne, byte, rest, ok_bind, pure_eq_ok, List.map_cons]

/-! ## The written form -/

/-- Whether the text has the written form: eight digits and a newline, any number of times. -/
def Canonical (text : String) : Prop :=
  ∃ ls : List (List Char), text.toList = ls.flatMap (· ++ ['\n']) ∧ ∀ l ∈ ls, EightBits l

theorem toList_binaryText (image : Image) :
    image.binaryText.toList =
      (image.bytes.map fun b => (bits b).toList).flatMap (· ++ ['\n']) := by
  simp [binaryText, String.toList_join, List.flatMap_map]

theorem canonical_binaryText (image : Image) : Canonical image.binaryText := by
  refine ⟨_, image.toList_binaryText, ?_⟩
  intro l hl
  obtain ⟨b, -, rfl⟩ := List.mem_map.mp hl
  exact eightBits_bits b

theorem ofBinaryText_of_lines {text : String} {ls : List (List Char)}
    (written : text.toList = ls.flatMap (· ++ ['\n'])) (h : ∀ l ∈ ls, EightBits l) :
    ofBinaryText text = .ok ⟨ls.map fun l => UInt8.ofNat (numeral 2 l)⟩ := by
  have lines : Text.lines text.toList = ls := by
    rw [written]
    apply Text.lines_flatMap
    intro l hl c hc
    exact (apart_of_isBit ((h l hl).2 c hc)).2.2
  rw [ofBinaryText, lines, bytesOfLines_of_eightBits 1 h]
  rfl

theorem ofBinaryText_binaryText (image : Image) :
    ofBinaryText image.binaryText = .ok image := by
  have digits : ∀ l ∈ image.bytes.map fun b => (bits b).toList, EightBits l := by
    intro l hl
    obtain ⟨b, -, rfl⟩ := List.mem_map.mp hl
    exact eightBits_bits b
  have same : (image.bytes.map fun b => (bits b).toList).map
      (fun l => UInt8.ofNat (numeral 2 l)) = image.bytes := by
    simp [List.map_map, Function.comp_def, numeral_bits]
  rw [ofBinaryText_of_lines image.toList_binaryText digits, same]

/-- Only one text of the written form describes an image. -/
theorem eq_binaryText_of_canonical {text : String} {image : Image} (form : Canonical text)
    (read : ofBinaryText text = .ok image) : text = image.binaryText := by
  obtain ⟨ls, written, digits⟩ := form
  rw [ofBinaryText_of_lines written digits] at read
  cases read
  have same : (ls.map fun l => UInt8.ofNat (numeral 2 l)).map (fun b => (bits b).toList) = ls := by
    rw [List.map_map]
    apply (List.map_congr_left fun l hl => bits_numeral (digits l hl)).trans
    exact List.map_id ls
  rw [← String.toList_inj, toList_binaryText, same, written]

/-- Every byte takes eight digits and a newline, of one byte each. -/
theorem utf8ByteSize_binaryText (image : Image) :
    image.binaryText.utf8ByteSize = 9 * image.size := by
  have single : ∀ c ∈ image.binaryText.toList, c.utf8Size = 1 := by
    intro c hc
    rw [toList_binaryText] at hc
    obtain ⟨l, hl, hc⟩ := List.mem_flatMap.mp hc
    obtain ⟨b, -, rfl⟩ := List.mem_map.mp hl
    rcases List.mem_append.mp hc with hc | hc
    · exact utf8Size_of_isBit ((eightBits_bits b).2 c hc)
    · rw [List.mem_singleton.mp hc]
      rfl
  have nine : ∀ bs : List UInt8,
      ((bs.map fun b => (bits b).toList).flatMap (· ++ ['\n'])).length = 9 * bs.length := by
    intro bs
    induction bs with
    | nil => rfl
    | cons b bs ih =>
      rw [List.map_cons, List.flatMap_cons, List.length_append, ih, List.length_append,
        (eightBits_bits b).1, List.length_singleton, List.length_cons]
      omega
  rw [Text.utf8ByteSize_eq_length single, toList_binaryText, nine, size]

/-! ## Rewriting -/

/-- The written form of the image that a text describes. -/
def rewritten (text : String) : Except BadLiteral String := do
  return (← ofBinaryText text).binaryText

theorem rewritten_eq_ok_iff {text other : String} :
    rewritten text = .ok other ↔ ∃ image, ofBinaryText text = .ok image ∧ other = image.binaryText := by
  rw [rewritten, bind_eq_ok_iff]
  constructor
  · rintro ⟨image, read, same⟩
    cases same
    exact ⟨image, read, rfl⟩
  · rintro ⟨image, read, rfl⟩
    exact ⟨image, read, rfl⟩

/-- Every image is read back from its text. A text that describes an image in any other way is
rewritten to that one, the only one of the written form, and this is rewritten to itself. -/
theorem binary_text_round_trip :
    (∀ image : Image, ofBinaryText image.binaryText = .ok image) ∧
    (∀ text image, ofBinaryText text = .ok image →
      Canonical image.binaryText ∧ image.binaryText.utf8ByteSize = 9 * image.size ∧
      ofBinaryText image.binaryText = .ok image ∧
      ∀ other, Canonical other → ofBinaryText other = .ok image → other = image.binaryText) ∧
    ∀ text other, rewritten text = .ok other → rewritten other = .ok other := by
  refine ⟨ofBinaryText_binaryText, ?_, ?_⟩
  · intro text image _
    exact ⟨canonical_binaryText image, utf8ByteSize_binaryText image,
      ofBinaryText_binaryText image, fun other => eq_binaryText_of_canonical⟩
  · intro text other h
    obtain ⟨image, -, rfl⟩ := rewritten_eq_ok_iff.mp h
    exact rewritten_eq_ok_iff.mpr ⟨image, ofBinaryText_binaryText image, rfl⟩

/-- A comment, an empty line, a short byte between blanks and one without a newline behind it. -/
theorem binary_text_round_trip_forgiven :
    ofBinaryText "# two bytes\n\n\t101 # five\r\n00000000" = .ok ⟨[5, 0]⟩ ∧
    Canonical (Image.mk [5, 0]).binaryText ∧
    ofBinaryText (Image.mk [5, 0]).binaryText = .ok ⟨[5, 0]⟩ ∧
    rewritten "# two bytes\n\n\t101 # five\r\n00000000" = .ok "00000101\n00000000\n" ∧
    rewritten "00000101\n00000000\n" = .ok "00000101\n00000000\n" := by
  have read : ofBinaryText "# two bytes\n\n\t101 # five\r\n00000000" = .ok ⟨[5, 0]⟩ := by cbv
  have first : rewritten "# two bytes\n\n\t101 # five\r\n00000000" =
      .ok "00000101\n00000000\n" := by
    rw [rewritten, read]
    cbv
  obtain ⟨-, forms, again⟩ := binary_text_round_trip
  obtain ⟨canonical, -, back, -⟩ := forms _ _ read
  exact ⟨read, canonical, back, first, again _ _ first⟩

end ByteMachine.Image
