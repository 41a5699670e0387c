/-
  The limits of the machine: how much memory there is, where the stack starts,
  and the three ways to ask for something the machine does not have.
-/

namespace ByteMachine

/-- The number of memory cells. -/
def capacity : Nat := 256

/-- The stack pointer a machine starts with unless told otherwise. -/
def defaultStackTop : UInt8 := 0xF4

/-- Something outside the architecture. -/
inductive Violation where
  /-- An image of `size` bytes does not fit the memory. -/
  | imageTooLarge (size : Nat)
  /-- No arithmetic operation has this name, or this opcode byte. -/
  | unsupportedOperation (name : String)
  /-- No register has this number. -/
  | registerOutOfRange (index : UInt8)
  deriving DecidableEq, Repr

/-- The violation in words. -/
def Violation.message : Violation → String
  | .imageTooLarge size =>
    "Program too large: " ++ Nat.repr size ++ " bytes (memory holds " ++ Nat.repr capacity ++ ")"
  | .unsupportedOperation name => "Unsupported ALU operation: " ++ name
  | .registerOutOfRange index =>
    "Invalid register index: " ++ Nat.repr index.toNat ++ " (valid range: 0-7)"

end ByteMachine
