import ByteMachine.Instruction.Decoding
import ByteMachine.Sink

/-
  Faults: why a machine cannot go on. A fault of an instruction names its
  site, the address of the instruction and its opcode byte.
-/

namespace ByteMachine

/-- Where an instruction faulted. -/
structure Site where
  pc : UInt8
  opcode : UInt8
  deriving DecidableEq, Repr

/-- Why a machine cannot go on. -/
inductive Fault where
  /-- Something outside the architecture was asked for. -/
  | violation (cause : Violation)
  /-- The image to load is longer than the memory. -/
  | loadOverflow (size : Nat)
  /-- The byte at the program counter is no opcode. -/
  | unknownOpcode (site : Site)
  /-- The byte has the shape of an arithmetic opcode, but is none. -/
  | unsupportedOperation (site : Site)
  /-- The program counter, an operand or the stack pointer would leave the memory. -/
  | addressOutOfRange (site : Site) (address : Int)
  /-- A register operand is not the number of a register. -/
  | invalidRegister (site : Site) (index : UInt8)
  /-- The machine faulted before. -/
  | alreadyFaulted
  /-- The printed value could not be written. -/
  | output (cause : SinkError)
  deriving DecidableEq, Repr

namespace Fault

/-- The fault of a machine that meets bytes at `pc` which do not decode. -/
def ofDecodeError (pc : UInt8) : DecodeError → Fault
  | .unknownOpcode byte => .unknownOpcode ⟨pc, byte⟩
  | .unsupportedOperation byte => .unsupportedOperation ⟨pc, byte⟩
  | .invalidRegister opcode index => .invalidRegister ⟨pc, opcode⟩ index
  | .truncated opcode _ found => .addressOutOfRange ⟨pc, opcode⟩ (pc.toNat + found)

/-- Where the fault happened, if an instruction caused it. -/
def site? : Fault → Option Site
  | .unknownOpcode site | .unsupportedOperation site | .addressOutOfRange site _
  | .invalidRegister site _ => some site
  | .violation _ | .loadOverflow _ | .alreadyFaulted | .output _ => none

/-- A byte as diagnostics of a running machine show it. -/
def shown (byte : UInt8) : String := "0x" ++ Text.lowerHex byte.toNat

/-- The fault in words. -/
def message : Fault → String
  | .violation cause => "Spec error: " ++ cause.message
  | .loadOverflow size =>
    "Load overflow: program is " ++ Nat.repr size ++ " bytes, memory holds " ++ Nat.repr capacity
  | .unknownOpcode site => "Unknown opcode " ++ shown site.opcode ++ " at PC " ++ shown site.pc
  | .unsupportedOperation site =>
    "Unsupported ALU operation " ++ shown site.opcode ++ " at PC " ++ shown site.pc
  | .addressOutOfRange site address =>
    "Address out of range: " ++ Int.repr address ++ " (PC " ++ shown site.pc ++ ", opcode "
      ++ shown site.opcode ++ ")"
  | .invalidRegister site index =>
    "Invalid register index " ++ Nat.repr index.toNat ++ " (PC " ++ shown site.pc ++ ", opcode "
      ++ shown site.opcode ++ ")"
  | .alreadyFaulted => "Machine faulted earlier and cannot be resumed"
  | .output cause => "I/O error: " ++ cause.message

end Fault

end ByteMachine
