import ByteMachine.Architecture
import ByteMachine.Text.Letters
import ByteMachine.Text.Numeral

/-
  Opcodes. An opcode is one byte `AABCDDDD`: `AA` counts the operand bytes
  that follow, `B` marks the arithmetic instructions, `C` those that set the
  program counter themselves, and `DDDD` tells instructions apart. Nine of the
  bytes are assigned; what the bits say holds for every byte.
-/

namespace ByteMachine

/-- The assigned opcodes. -/
inductive Opcode where
  | hlt | ldi | prn | add | mul | push | pop | call | ret
  deriving DecidableEq, Repr

namespace Opcode

/-! ## What the bits of a byte say -/

/-- The number of operand bytes after an opcode byte. -/
def operandCountOf (byte : UInt8) : Nat := (byte >>> 6).toNat

/-- The number of bytes of an instruction, its opcode byte included. -/
def sizeOf (byte : UInt8) : Nat := operandCountOf byte + 1

/-- Whether the byte carries the arithmetic flag. -/
def isArithmeticByte (byte : UInt8) : Bool := byte &&& 0x20 != 0

/-- Whether the byte says that the instruction sets the program counter. -/
def setsPcByte (byte : UInt8) : Bool := byte &&& 0x10 != 0

/-- Whether the byte has the shape of an arithmetic instruction: two operands,
the arithmetic flag, and no say on the program counter. -/
def hasArithmeticShape (byte : UInt8) : Bool :=
  operandCountOf byte == 2 && isArithmeticByte byte && !setsPcByte byte

/-! ## The assigned bytes -/

/-- Every opcode, in the order of look-ups. -/
def all : List Opcode := [.hlt, .ldi, .prn, .add, .mul, .push, .pop, .call, .ret]

/-- The byte that stands for the opcode. -/
def byte : Opcode → UInt8
  | .hlt => 0b00000001
  | .ldi => 0b10000010
  | .prn => 0b01000111
  | .add => 0b10100000
  | .mul => 0b10100010
  | .push => 0b01000101
  | .pop => 0b01000110
  | .call => 0b01010000
  | .ret => 0b00010001

/-- The opcode a byte stands for, if it is assigned. -/
def ofByte? (b : UInt8) : Option Opcode := all.find? (·.byte == b)

/-- The number of operand bytes. -/
def operandCount (op : Opcode) : Nat := operandCountOf op.byte

/-- The number of bytes of the whole instruction. -/
def size (op : Opcode) : Nat := sizeOf op.byte

/-- Whether the opcode is an arithmetic one. -/
def isArithmetic (op : Opcode) : Bool := isArithmeticByte op.byte

/-- Whether the instruction itself decides where execution goes on. -/
def setsPc (op : Opcode) : Bool := setsPcByte op.byte

/-- The bits of the assigned bytes give instructions of one, two or three bytes. -/
theorem size_eq (op : Opcode) :
    op.size = match op with
      | .hlt | .ret => 1
      | .prn | .push | .pop | .call => 2
      | .ldi | .add | .mul => 3 := by
  cases op <;> decide

theorem size_pos (op : Opcode) : 0 < op.size := Nat.succ_pos _

theorem size_le_three (op : Opcode) : op.size ≤ 3 := by cases op <;> decide

theorem mem_all (op : Opcode) : op ∈ all := by cases op <;> decide

@[simp] theorem ofByte?_byte (op : Opcode) : ofByte? op.byte = some op := by
  cases op <;> rfl

theorem ofByte?_eq_some_iff {b : UInt8} {op : Opcode} : ofByte? b = some op ↔ b = op.byte := by
  constructor
  · intro h
    have found := List.find?_some (show all.find? (fun o : Opcode => o.byte == b) = some op from h)
    exact (beq_iff_eq.1 found).symm
  · rintro rfl
    exact ofByte?_byte op

/-! ## Mnemonics -/

/-- The name of the opcode in source text. -/
def mnemonic : Opcode → String
  | .hlt => "HLT"
  | .ldi => "LDI"
  | .prn => "PRN"
  | .add => "ADD"
  | .mul => "MUL"
  | .push => "PUSH"
  | .pop => "POP"
  | .call => "CALL"
  | .ret => "RET"

/-- The opcode with the given name, in upper or lower case. -/
def ofMnemonic? (name : String) : Option Opcode :=
  all.find? fun op => Text.sameLetters op.mnemonic name

end Opcode

/-! ## Arithmetic -/

/-- The arithmetic operations. -/
inductive Operation where
  | add | mul
  deriving DecidableEq, Repr

namespace Operation

/-- Every operation. -/
def all : List Operation := [.add, .mul]

/-- The opcode of the instruction that performs the operation. -/
def opcode : Operation → Opcode
  | .add => .add
  | .mul => .mul

/-- The name of the operation, which is its mnemonic. -/
def name (op : Operation) : String := op.opcode.mnemonic

/-- The result in one byte: what does not fit is lost. -/
def apply : Operation → UInt8 → UInt8 → UInt8
  | .add, a, b => a + b
  | .mul, a, b => a * b

/-- The operation an opcode byte performs. -/
def ofByte (b : UInt8) : Except Violation Operation :=
  match Opcode.ofByte? b with
  | some .add => .ok .add
  | some .mul => .ok .mul
  | _ => .error (.unsupportedOperation ("0x" ++ Text.lowerHex b.toNat))

/-- The operation with the given name, in upper or lower case. -/
def ofName (name : String) : Except Violation Operation :=
  match all.find? (·.name == Text.upper name) with
  | some op => .ok op
  | none => .error (.unsupportedOperation name)

end Operation

end ByteMachine
