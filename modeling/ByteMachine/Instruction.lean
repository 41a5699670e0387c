import ByteMachine.Opcode
import ByteMachine.Register

/-
  Instructions with their operands, the bytes they are stored as, and the text
  they are written as. Both forms start with the opcode and go on with the
  operands in the same order.
-/

namespace ByteMachine

/-- An instruction of the machine. -/
inductive Instruction where
  /-- Stop. -/
  | hlt
  /-- Put the byte `imm` into `rd`. -/
  | ldi (rd : Register) (imm : UInt8)
  /-- Print `rs` as a decimal number. -/
  | prn (rs : Register)
  /-- Combine `ra` and `rb` into `ra`. -/
  | alu (op : Operation) (ra rb : Register)
  /-- Put `rs` on top of the stack. -/
  | push (rs : Register)
  /-- Take the top of the stack into `rd`. -/
  | pop (rd : Register)
  /-- Go on at the address in `rs`, with the way back on the stack. -/
  | call (rs : Register)
  /-- Go back to the address on top of the stack. -/
  | ret
  deriving DecidableEq, Repr

namespace Instruction

/-- The opcode of the instruction. -/
def opcode : Instruction → Opcode
  | .hlt => .hlt
  | .ldi _ _ => .ldi
  | .prn _ => .prn
  | .alu op _ _ => op.opcode
  | .push _ => .push
  | .pop _ => .pop
  | .call _ => .call
  | .ret => .ret

/-- The number of bytes of the instruction. -/
def size (i : Instruction) : Nat := i.opcode.size

/-- Whether the instruction itself decides where execution goes on. -/
def setsPc (i : Instruction) : Bool := i.opcode.setsPc

/-- The operand bytes. -/
def operandBytes : Instruction → List UInt8
  | .hlt | .ret => []
  | .ldi rd imm => [rd.byte, imm]
  | .prn r | .push r | .pop r | .call r => [r.byte]
  | .alu _ ra rb => [ra.byte, rb.byte]

/-- The bytes of the instruction. -/
def encode (i : Instruction) : List UInt8 := i.opcode.byte :: i.operandBytes

/-- The operands as source text. -/
def operandText : Instruction → String
  | .hlt | .ret => ""
  | .ldi rd imm => " " ++ rd.name ++ ", " ++ Nat.repr imm.toNat
  | .prn r | .push r | .pop r | .call r => " " ++ r.name
  | .alu _ ra rb => " " ++ ra.name ++ ", " ++ rb.name

/-- The instruction as a line of source text. -/
def text (i : Instruction) : String := i.opcode.mnemonic ++ i.operandText

/-- An instruction takes as many bytes as its opcode says. -/
theorem length_encode (i : Instruction) : i.encode.length = i.size := by
  rw [size, Opcode.size_eq]
  cases i with
  | alu op ra rb => cases op <;> rfl
  | _ => rfl

theorem size_pos (i : Instruction) : 0 < i.size := i.opcode.size_pos

theorem size_le_three (i : Instruction) : i.size ≤ 3 := i.opcode.size_le_three

end Instruction

end ByteMachine
