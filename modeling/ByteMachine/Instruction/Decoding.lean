import ByteMachine.Instruction

/-
  Reading an instruction from the front of a string of bytes. Decoding looks
  at the opcode byte first, then at how many bytes there are, then at the
  register numbers in order, and it never looks past the bytes the opcode
  asks for.
-/

namespace ByteMachine

/-- Why bytes are no instruction. -/
inductive DecodeError where
  /-- The byte is no opcode. -/
  | unknownOpcode (byte : UInt8)
  /-- The byte has the shape of an arithmetic opcode, but is none. -/
  | unsupportedOperation (byte : UInt8)
  /-- A register operand of the opcode is not the number of a register. -/
  | invalidRegister (opcode index : UInt8)
  /-- The instruction takes `expected` bytes and only `found` are there. -/
  | truncated (opcode : UInt8) (expected found : Nat)
  deriving DecidableEq, Repr

/-- The error in words. -/
def DecodeError.message : DecodeError → String
  | .unknownOpcode byte => "Unknown opcode: 0x" ++ Text.upperHex byte.toNat
  | .unsupportedOperation byte => "Unsupported ALU operation: 0x" ++ Text.upperHex byte.toNat
  | .invalidRegister opcode index =>
    "Invalid register " ++ Nat.repr index.toNat ++ " in 0x" ++ Text.lowerHex opcode.toNat
      ++ " instruction"
  | .truncated opcode expected found =>
    "Truncated instruction: opcode 0x" ++ Text.upperHex opcode.toNat ++ " needs "
      ++ Nat.repr expected ++ " bytes, found " ++ Nat.repr found

namespace Opcode

/-- The opcode a byte stands for, or what is wrong with the byte. -/
def classify (byte : UInt8) : Except DecodeError Opcode :=
  match ofByte? byte with
  | some op => .ok op
  | none =>
    if hasArithmeticShape byte then .error (.unsupportedOperation byte)
    else .error (.unknownOpcode byte)

/-- The number of bytes of the instruction that starts with the byte. -/
def sizeAt (byte : UInt8) : Except DecodeError Nat := (classify byte).map size

@[simp] theorem classify_byte (op : Opcode) : classify op.byte = .ok op := by
  simp [classify]

theorem classify_eq_ok_iff {b : UInt8} {op : Opcode} : classify b = .ok op ↔ b = op.byte := by
  rw [← ofByte?_eq_some_iff]
  cases h : ofByte? b with
  | some o => simp [classify, h]
  | none =>
    simp only [classify, h]
    split <;> simp

end Opcode

namespace Instruction

/-- The register an operand byte of the opcode names. -/
def registerOperand (op : Opcode) (index : UInt8) : Except DecodeError Register :=
  match Register.ofNat? index.toNat with
  | some r => .ok r
  | none => .error (.invalidRegister op.byte index)

/-- The instruction of the opcode whose operand bytes are at the front of `bytes`. -/
def decodeOperands (op : Opcode) (bytes : List UInt8) : Except DecodeError Instruction :=
  match op, bytes with
  | .hlt, _ => .ok .hlt
  | .ret, _ => .ok .ret
  | .ldi, a :: imm :: _ => do return .ldi (← registerOperand op a) imm
  | .prn, a :: _ => do return .prn (← registerOperand op a)
  | .push, a :: _ => do return .push (← registerOperand op a)
  | .pop, a :: _ => do return .pop (← registerOperand op a)
  | .call, a :: _ => do return .call (← registerOperand op a)
  | .add, a :: b :: _ => do
    return .alu .add (← registerOperand op a) (← registerOperand op b)
  | .mul, a :: b :: _ => do
    return .alu .mul (← registerOperand op a) (← registerOperand op b)
  | _, _ => .error (.truncated op.byte op.size (bytes.length + 1))

/-- The instruction at the front of `bytes`. -/
def decode (bytes : List UInt8) : Except DecodeError Instruction :=
  match bytes with
  | [] => .error (.truncated 0 1 0)
  | byte :: rest =>
    match Opcode.classify byte with
    | .ok op => decodeOperands op rest
    | .error e => .error e

end Instruction

end ByteMachine
