import ByteMachine.Memory
import ByteMachine.Register

/-
  The state of a machine: registers, program counter, memory, and whether it
  still runs. The stack grows downward in memory from the address in R7: that
  register holds the address of the top of the stack.
-/

namespace ByteMachine

/-- What stopped a machine that did not fault. -/
inductive HaltReason where
  /-- A halt instruction. -/
  | instruction
  /-- The limit on the number of cycles. -/
  | cycleLimit
  deriving DecidableEq, Repr

/-- Whether a machine runs. -/
inductive Status where
  | running
  | halted (reason : HaltReason)
  | faulted
  deriving DecidableEq, Repr

/-- The reason for halting, of a machine that halted. -/
def Status.haltReason? : Status → Option HaltReason
  | .halted reason => some reason
  | .running | .faulted => none

/-- Everything that instructions read and change. -/
structure State where
  registers : Registers
  /-- The address of the next instruction. -/
  pc : UInt8
  memory : Memory
  status : Status
  /-- The number of instructions executed. -/
  cycles : UInt64
  deriving DecidableEq, Repr

namespace State

/-- A state about to start at address 0 in an empty memory, with an empty stack. -/
def initial (stackTop : UInt8) : State where
  registers := Registers.zero.set .sp stackTop
  pc := 0
  memory := Memory.zero
  status := .running
  cycles := 0

/-- The value of a register. -/
def get (s : State) (r : Register) : UInt8 := s.registers.get r

/-- The state with a register replaced. -/
def set (s : State) (r : Register) (value : UInt8) : State :=
  { s with registers := s.registers.set r value }

theorem get_set (s : State) (r q : Register) (value : UInt8) :
    (s.set r value).get q = if r = q then value else s.get q :=
  s.registers.get_set r q value

/-- The address of the top of the stack. -/
def sp (s : State) : UInt8 := s.get .sp

/-- The value on top of the stack. -/
def top (s : State) : UInt8 := s.memory.read s.sp

/-- The state with one more value on the stack, which may depend on the
lowered stack pointer; nothing if the pointer is at 0 already. -/
def push (s : State) (value : State → UInt8) : Option State :=
  if s.sp = 0 then none
  else
    let lowered := s.set .sp (s.sp - 1)
    some { lowered with memory := lowered.memory.write lowered.sp (value lowered) }

/-- The state with the stack pointer one higher; nothing if it is at 255 already. -/
def raise (s : State) : Option State :=
  if s.sp = 255 then none else some (s.set .sp (s.sp + 1))

theorem push_eq_none_iff {s : State} {value : State → UInt8} :
    s.push value = none ↔ s.sp = 0 := by
  simp [push]

theorem raise_eq_none_iff {s : State} : s.raise = none ↔ s.sp = 255 := by
  simp [raise]

/-- A pushed value is on top of the stack. -/
theorem top_of_push {s pushed : State} {value : State → UInt8}
    (h : s.push value = some pushed) : pushed.top = value (s.set .sp (s.sp - 1)) := by
  unfold push at h
  split at h
  · cases h
  · cases h
    simp [top, sp, get]

end State

end ByteMachine
