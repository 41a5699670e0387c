import ByteMachine.Instruction.Decoding
import ByteMachine.Proofs.Answer

/-
  Bytes and instructions. The bytes of an instruction are read as the
  instruction whatever stands behind them, and bytes that are read as an
  instruction begin with the bytes of it: nothing else is read as one. Decoding
  looks at the opcode, then for missing operands, then at the register numbers,
  so what is wrong with some bytes stays wrong when more are added, unless it was
  that some were missing. By induction on their number the instructions of a
  sequence are read back one after the other, up to the end of the last one.
-/

namespace ByteMachine

theorem Opcode.sizeAt_eq_ok_iff {byte : UInt8} {size : Nat} :
    sizeAt byte = .ok size ↔ ∃ op, ofByte? byte = some op ∧ op.size = size := by
  cases assigned : ofByte? byte with
  | some op =>
    rw [sizeAt, ofByte?_eq_some_iff.mp assigned, classify_byte]
    constructor
    · intro h; cases h; exact ⟨op, rfl, rfl⟩
    · rintro ⟨_, h, rfl⟩; cases h; rfl
  | none =>
    have unclassified : ∀ op, classify byte ≠ .ok op := by
      intro op h
      rw [ofByte?_eq_some_iff.mpr (classify_eq_ok_iff.mp h)] at assigned
      cases assigned
    constructor
    · intro h
      cases classified : classify byte with
      | ok op => exact absurd classified (unclassified op)
      | error e => rw [sizeAt, classified] at h; cases h
    · rintro ⟨_, h, -⟩; cases h

namespace Instruction

@[simp] theorem registerOperand_byte (op : Opcode) (r : Register) :
    registerOperand op r.byte = .ok r := by
  simp [registerOperand]

theorem registerOperand_eq_ok_iff {op : Opcode} {index : UInt8} {r : Register} :
    registerOperand op index = .ok r ↔ index = r.byte := by
  constructor
  · intro h
    unfold registerOperand at h
    split at h
    · next found =>
      cases h
      rw [← UInt8.toNat_inj, Register.toNat_byte]
      exact Register.ofNat?_eq_some_iff.mp found
    · cases h
  · rintro rfl
    exact registerOperand_byte op r

/-- The bytes of an instruction are read as the instruction. -/
@[simp] theorem decode_encode_append (i : Instruction) (rest : List UInt8) :
    decode (i.encode ++ rest) = .ok i := by
  rw [encode, List.cons_append, decode, Opcode.classify_byte]
  cases i with
  | alu op ra rb => cases op <;> simp [opcode, operandBytes, decodeOperands, Operation.opcode]
  | _ => simp [opcode, operandBytes, decodeOperands]

/-- Operand bytes that are read begin with those of the instruction. -/
theorem operands_of_decodeOperands {op : Opcode} {bytes : List UInt8} {i : Instruction}
    (h : decodeOperands op bytes = .ok i) : i.opcode = op ∧ i.operandBytes <+: bytes := by
  unfold decodeOperands at h
  split at h
  case h_1 | h_2 =>
    cases h
    exact ⟨rfl, List.nil_prefix⟩
  case h_3 a imm rest =>
    obtain ⟨rd, hd, h⟩ := bind_eq_ok_iff.mp h
    cases h
    rw [registerOperand_eq_ok_iff.mp hd]
    exact ⟨rfl, rest, rfl⟩
  case h_4 a rest | h_5 a rest | h_6 a rest | h_7 a rest =>
    obtain ⟨r, hr, h⟩ := bind_eq_ok_iff.mp h
    cases h
    rw [registerOperand_eq_ok_iff.mp hr]
    exact ⟨rfl, rest, rfl⟩
  case h_8 a b rest | h_9 a b rest =>
    obtain ⟨ra, ha, h⟩ := bind_eq_ok_iff.mp h
    obtain ⟨rb, hb, h⟩ := bind_eq_ok_iff.mp h
    cases h
    rw [registerOperand_eq_ok_iff.mp ha, registerOperand_eq_ok_iff.mp hb]
    exact ⟨rfl, rest, rfl⟩
  case h_10 => cases h

/-- Bytes that are read as an instruction begin with the bytes of it. -/
theorem encode_prefix_of_decode {bytes : List UInt8} {i : Instruction} (h : decode bytes = .ok i) :
    i.encode <+: bytes := by
  cases bytes with
  | nil => cases h
  | cons byte rest =>
    rw [decode] at h
    split at h
    · next op classified =>
      obtain ⟨rfl, rest', hr⟩ := operands_of_decodeOperands h
      rw [Opcode.classify_eq_ok_iff.mp classified, ← hr]
      exact ⟨rest', rfl⟩
    · cases h

theorem decode_eq_ok_iff {bytes : List UInt8} {i : Instruction} :
    decode bytes = .ok i ↔ i.encode <+: bytes := by
  constructor
  · exact encode_prefix_of_decode
  · rintro ⟨rest, rfl⟩
    exact decode_encode_append i rest

/-- The bytes an instruction is read from are its own. -/
theorem take_size_of_decode {bytes : List UInt8} {i : Instruction} (h : decode bytes = .ok i) :
    bytes.take i.size = i.encode := by
  obtain ⟨rest, rfl⟩ := encode_prefix_of_decode h
  rw [← i.length_encode, List.take_left]

theorem size_le_of_decode {bytes : List UInt8} {i : Instruction} (h : decode bytes = .ok i) :
    i.size ≤ bytes.length := by
  rw [← i.length_encode]
  exact (encode_prefix_of_decode h).length_le

theorem length_take_of_decode {bytes : List UInt8} {i : Instruction} (h : decode bytes = .ok i) :
    (bytes.take i.size).length = i.size := by
  rw [take_size_of_decode h, i.length_encode]

/-! ## What decoding reads -/

/-- A missing operand is noticed before any register number is looked at. -/
theorem decodeOperands_of_short {op : Opcode} {bytes : List UInt8}
    (short : bytes.length + 1 < op.size) :
    decodeOperands op bytes = .error (.truncated op.byte op.size (bytes.length + 1)) := by
  rw [Opcode.size_eq] at short
  cases op with
  | hlt | ret => simp at short
  | prn | push | pop | call =>
    rcases bytes with _ | ⟨a, rest⟩
    · rfl
    · simp only [List.length_cons] at short
      omega
  | ldi | add | mul =>
    rcases bytes with _ | ⟨a, _ | ⟨b, rest⟩⟩
    · rfl
    · rfl
    · simp only [List.length_cons] at short
      omega

/-- Bytes behind the operands are not read. -/
theorem decodeOperands_append {op : Opcode} {bytes : List UInt8}
    (enough : op.size ≤ bytes.length + 1) (rest : List UInt8) :
    decodeOperands op (bytes ++ rest) = decodeOperands op bytes := by
  rw [Opcode.size_eq] at enough
  cases op with
  | hlt | ret => rfl
  | prn | push | pop | call =>
    rcases bytes with _ | ⟨a, more⟩
    · simp at enough
    · rfl
  | ldi | add | mul =>
    rcases bytes with _ | ⟨a, _ | ⟨b, more⟩⟩
    · simp at enough
    · simp at enough
    · rfl

theorem registerOperand_eq_error {op : Opcode} {index : UInt8} {e : DecodeError}
    (h : registerOperand op index = .error e) : e = .invalidRegister op.byte index := by
  unfold registerOperand at h
  split at h
  · cases h
  · cases h; rfl

/-- With all operands there, only a register number can be wrong. -/
theorem error_of_decodeOperands {op : Opcode} {bytes : List UInt8} {e : DecodeError}
    (enough : op.size ≤ bytes.length + 1) (h : decodeOperands op bytes = .error e) :
    ∃ index, e = .invalidRegister op.byte index := by
  rw [Opcode.size_eq] at enough
  cases op with
  | hlt | ret => cases h
  | prn | push | pop | call =>
    rcases bytes with _ | ⟨a, more⟩
    · simp at enough
    · obtain h | ⟨r, _, h⟩ := bind_eq_error_iff.mp h
      · exact ⟨a, registerOperand_eq_error h⟩
      · cases h
  | ldi =>
    rcases bytes with _ | ⟨a, _ | ⟨imm, more⟩⟩
    · simp at enough
    · simp at enough
    · obtain h | ⟨r, _, h⟩ := bind_eq_error_iff.mp h
      · exact ⟨a, registerOperand_eq_error h⟩
      · cases h
  | add | mul =>
    rcases bytes with _ | ⟨a, _ | ⟨b, more⟩⟩
    · simp at enough
    · simp at enough
    · obtain h | ⟨ra, _, h⟩ := bind_eq_error_iff.mp h
      · exact ⟨a, registerOperand_eq_error h⟩
      obtain h | ⟨rb, _, h⟩ := bind_eq_error_iff.mp h
      · exact ⟨b, registerOperand_eq_error h⟩
      · cases h

theorem decode_of_opcode {byte : UInt8} {op : Opcode} (assigned : Opcode.ofByte? byte = some op)
    (rest : List UInt8) : decode (byte :: rest) = decodeOperands op rest := by
  simp only [decode, Opcode.classify, assigned]

/-- The opcode byte is looked at before anything else. -/
theorem decode_of_no_opcode {byte : UInt8} (unassigned : Opcode.ofByte? byte = none)
    (rest : List UInt8) : decode (byte :: rest) = .error
      (if Opcode.hasArithmeticShape byte then .unsupportedOperation byte else .unknownOpcode byte) := by
  by_cases arithmetic : Opcode.hasArithmeticShape byte = true
  · simp only [decode, Opcode.classify, unassigned, if_pos arithmetic]
  · simp only [decode, Opcode.classify, unassigned, if_neg arithmetic]

/-- Bytes are cut short just if they start with an opcode and have fewer bytes than it asks for. -/
theorem decode_eq_truncated_iff {byte opcode : UInt8} {rest : List UInt8} {expected found : Nat} :
    decode (byte :: rest) = .error (.truncated opcode expected found) ↔
      opcode = byte ∧ (∃ op, Opcode.ofByte? byte = some op ∧ op.size = expected) ∧
        found = (byte :: rest).length ∧ found < expected := by
  cases assigned : Opcode.ofByte? byte with
  | none =>
    rw [decode_of_no_opcode assigned]
    constructor
    · intro h
      split at h <;> cases h
    · rintro ⟨-, ⟨op, h, -⟩, -⟩
      cases h
  | some op =>
    have own := Opcode.ofByte?_eq_some_iff.mp assigned
    rw [decode_of_opcode assigned]
    by_cases short : rest.length + 1 < op.size
    · rw [decodeOperands_of_short short, ← own]
      constructor
      · intro h
        cases h
        exact ⟨rfl, ⟨op, rfl, rfl⟩, rfl, short⟩
      · rintro ⟨rfl, ⟨op', h, rfl⟩, rfl, -⟩
        cases h
        rfl
    · constructor
      · intro h
        obtain ⟨index, h⟩ := error_of_decodeOperands (by omega) h
        cases h
      · rintro ⟨-, ⟨op', h, rfl⟩, rfl, less⟩
        cases h
        exact absurd less short

/-- What is decoded, or wrong for another reason than missing bytes, does not depend on the bytes
behind it. -/
theorem decode_append {bytes : List UInt8}
    (whole : ∀ opcode expected found, decode bytes ≠ .error (.truncated opcode expected found))
    (more : List UInt8) : decode (bytes ++ more) = decode bytes := by
  cases bytes with
  | nil => exact absurd rfl (whole 0 1 0)
  | cons byte rest =>
    cases assigned : Opcode.ofByte? byte with
    | none => rw [List.cons_append, decode_of_no_opcode assigned, decode_of_no_opcode assigned]
    | some op =>
      have enough : op.size ≤ rest.length + 1 := Nat.le_of_not_lt fun short =>
        whole byte op.size (rest.length + 1)
          (decode_eq_truncated_iff.mpr ⟨rfl, ⟨op, assigned, rfl⟩, rfl, short⟩)
      rw [List.cons_append, decode_of_opcode assigned, decode_of_opcode assigned,
        decodeOperands_append enough]

/-- The bytes that the opcode asks for are enough to decode them all. -/
theorem decode_take {byte : UInt8} {op : Opcode} {rest : List UInt8}
    (assigned : Opcode.ofByte? byte = some op) (enough : op.size ≤ (byte :: rest).length) :
    decode ((byte :: rest).take op.size) = decode (byte :: rest) := by
  obtain ⟨n, size⟩ : ∃ n, op.size = n + 1 := ⟨op.operandCount, rfl⟩
  rw [List.length_cons, size] at enough
  have own : op.size ≤ (rest.take n).length + 1 := by
    rw [List.length_take, size]
    omega
  have all := decodeOperands_append own (rest.drop n)
  rw [List.take_append_drop] at all
  rw [size, List.take_succ_cons, decode_of_opcode assigned, decode_of_opcode assigned, all]

/-! ## Sequences of instructions -/

/-- The first `n` instructions of the bytes, each read where the one before it ends, and the bytes
behind them. -/
def decodeFirst : Nat → List UInt8 → Except DecodeError (List Instruction × List UInt8)
  | 0, bytes => .ok ([], bytes)
  | n + 1, bytes => do
    let i ← decode bytes
    let (is, rest) ← decodeFirst n (bytes.drop i.size)
    return (i :: is, rest)

/-- Bytes are read as a sequence just if they are the bytes of the sequence and those left over. -/
theorem decodeFirst_eq_ok_iff {n : Nat} {bytes rest : List UInt8} {is : List Instruction} :
    decodeFirst n bytes = .ok (is, rest) ↔ is.length = n ∧ bytes = is.flatMap encode ++ rest := by
  induction n generalizing bytes is with
  | zero =>
    rw [decodeFirst, List.length_eq_zero_iff]
    constructor
    · intro h
      cases h
      exact ⟨rfl, rfl⟩
    · rintro ⟨rfl, rfl⟩
      rfl
  | succ n ih =>
    rw [decodeFirst, bind_eq_ok_iff]
    constructor
    · rintro ⟨i, first, h⟩
      obtain ⟨⟨js, left⟩, others, h⟩ := bind_eq_ok_iff.mp h
      cases h
      obtain ⟨length, behind⟩ := ih.mp others
      refine ⟨by rw [List.length_cons, length], ?_⟩
      calc bytes = bytes.take i.size ++ bytes.drop i.size := (List.take_append_drop ..).symm
        _ = i.encode ++ (js.flatMap encode ++ rest) := by rw [take_size_of_decode first, behind]
        _ = (i :: js).flatMap encode ++ rest := by rw [List.flatMap_cons, List.append_assoc]
    · rintro ⟨length, rfl⟩
      cases is with
      | nil => cases length
      | cons i js =>
        have behind : ((i :: js).flatMap encode ++ rest).drop i.size = js.flatMap encode ++ rest := by
          rw [List.flatMap_cons, List.append_assoc, ← i.length_encode, List.drop_left]
        have others : decodeFirst n (js.flatMap encode ++ rest) = .ok (js, rest) :=
          ih.mpr ⟨Nat.succ.inj length, rfl⟩
        refine ⟨i, by rw [List.flatMap_cons, List.append_assoc, decode_encode_append], ?_⟩
        rw [behind, others]
        rfl

/-- No encoding is the beginning of another one. -/
theorem eq_of_encode_prefix {i j : Instruction} {rest : List UInt8}
    (h : i.encode <+: j.encode ++ rest) : i = j := by
  have read := (decode_eq_ok_iff.mpr h).symm.trans (j.decode_encode_append rest)
  exact Except.ok.inj read

theorem size_of_decode {byte : UInt8} {rest : List UInt8} {i : Instruction}
    (h : decode (byte :: rest) = .ok i) : i.size = (byte >>> 6).toNat + 1 := by
  obtain ⟨more, own⟩ := encode_prefix_of_decode h
  have first : i.opcode.byte = byte := (List.cons.inj own).1
  rw [← first]
  rfl

/-- Bytes and instructions determine each other: sequences are read back from their bytes, nothing
else is read, and what is read or wrong stays so when bytes are added behind, unless bytes were
missing. -/
theorem bytes_determine_instructions (is : List Instruction) (rest bytes more : List UInt8) :
    decodeFirst is.length (is.flatMap encode ++ rest) = .ok (is, rest) ∧
    (∀ i j : Instruction, i.encode <+: j.encode ++ rest → i = j) ∧
    (∀ i, decode bytes = .ok i → i.encode <+: bytes ∧ i.encode.length = i.size ∧
      ∃ byte, bytes.head? = some byte ∧ i.size = (byte >>> 6).toNat + 1) ∧
    ((∀ opcode expected found, decode bytes ≠ .error (.truncated opcode expected found)) →
      decode (bytes ++ more) = decode bytes) ∧
    (∀ byte tail opcode expected found, bytes = byte :: tail →
      (decode bytes = .error (.truncated opcode expected found) ↔
        opcode = byte ∧ (∃ op, Opcode.ofByte? byte = some op ∧ op.size = expected) ∧
          found = bytes.length ∧ found < expected)) := by
  refine ⟨decodeFirst_eq_ok_iff.mpr ⟨rfl, rfl⟩, fun i j => eq_of_encode_prefix, ?_,
    fun whole => decode_append whole more, ?_⟩
  · intro i h
    refine ⟨encode_prefix_of_decode h, i.length_encode, ?_⟩
    cases bytes with
    | nil => cases h
    | cons byte tail => exact ⟨byte, rfl, size_of_decode h⟩
  · rintro byte tail opcode expected found rfl
    exact decode_eq_truncated_iff

/-- Two instructions in front of a byte are read back, and the number of no register is wrong
whatever follows. -/
theorem bytes_determine_instructions_no_register :
    decodeFirst 2 ([.ldi ⟨1⟩ 5, .call ⟨1⟩].flatMap encode ++ [0x47]) =
      .ok ([.ldi ⟨1⟩ 5, .call ⟨1⟩], [0x47]) ∧
    (∀ opcode expected found, decode [0x47, 9] ≠ .error (.truncated opcode expected found)) ∧
    decode ([0x47, 9] ++ [0x01]) = decode [0x47, 9] := by
  obtain ⟨read, -, -, stable, -⟩ :=
    bytes_determine_instructions [.ldi ⟨1⟩ 5, .call ⟨1⟩] [0x47] [0x47, 9] [0x01]
  have whole : ∀ opcode expected found,
      decode [0x47, 9] ≠ .error (.truncated opcode expected found) := by
    intro opcode expected found h
    have wrong : decode [0x47, 9] = .error (.invalidRegister 0x47 9) := rfl
    rw [wrong] at h
    cases h
  exact ⟨read, whole, stable whole⟩

end Instruction

end ByteMachine
