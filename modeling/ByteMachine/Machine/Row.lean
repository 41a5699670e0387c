import ByteMachine.Machine.State
import ByteMachine.Text.Numeral

/-
  Trace rows: a machine's state as it stands before a cycle, with the three
  bytes at the program counter, and its text in hexadecimal.
-/

namespace ByteMachine

/-- A state before a cycle. -/
structure TraceRow where
  /-- The number of cycles before. -/
  cycle : UInt64
  pc : UInt8
  /-- The byte at the program counter and the two behind it, 0 past the end of the memory. -/
  bytes : List UInt8
  registers : Registers
  deriving DecidableEq, Repr

namespace TraceRow

/-- The row of a state. -/
def ofState (s : State) : TraceRow where
  cycle := s.cycles
  pc := s.pc
  bytes := (List.range' s.pc.toNat 3).map fun index => (s.memory.get? index).getD 0
  registers := s.registers

/-- Bytes in hexadecimal, a space between two. -/
def hexBytes (bytes : List UInt8) : String :=
  String.intercalate " " (bytes.map fun b => Text.upperHex b.toNat)

/-- The row as a line: program counter, bytes, registers. -/
def text (row : TraceRow) : String :=
  Text.upperHex row.pc.toNat ++ " | " ++ hexBytes row.bytes ++ " | "
    ++ hexBytes row.registers.toList

end TraceRow

end ByteMachine
