import ByteMachine.Machine.Execute
import ByteMachine.Machine.Row

/-
  The machine. A cycle fetches the instruction at the program counter, decodes
  it, executes it and counts it. A machine runs until a halt instruction, the
  limit on its cycles, or a fault; once stopped it stays stopped, and what a
  faulting instruction did before its fault stays done.

  A machine can keep a row of its state before every cycle, and it writes a
  journal of what happened to it. Neither has a part in what it computes.
-/

namespace ByteMachine

/-- What is chosen before a machine starts. -/
structure Config where
  /-- The number of cycles after which a run stops. -/
  maxCycles : UInt64 := 1000000
  /-- The stack pointer at the start. -/
  stackTop : UInt8 := defaultStackTop
  /-- Whether the journal has a row for every cycle. -/
  logRows : Bool := false
  /-- Whether the machine keeps the rows. -/
  keepRows : Bool := false
  deriving DecidableEq, Repr

/-- What the journal of a machine tells. -/
inductive Event where
  /-- An image of `size` bytes was loaded. -/
  | loaded (size : Nat)
  /-- A cycle is about to begin in this state. -/
  | row (row : TraceRow)
  /-- A cycle faulted and left the program counter at `pc`, after `cycles` whole ones. -/
  | faulted (fault : Fault) (pc : UInt8) (cycles : UInt64)
  /-- A run ended. -/
  | halted (cycles : UInt64) (reason : HaltReason)
  deriving DecidableEq, Repr

/-- A machine with its settings and records. -/
structure Machine where
  config : Config
  state : State
  /-- The rows kept so far. -/
  rows : Array TraceRow
  journal : Array Event
  deriving DecidableEq, Repr

/-- A machine and a sink after some work, with the answer to it. -/
structure Outcome (σ α : Type) where
  machine : Machine
  sink : σ
  answer : Except Fault α

namespace Machine

variable {σ : Type}

/-- A machine that has done nothing yet. -/
def initial (config : Config) : Machine where
  config := config
  state := .initial config.stackTop
  rows := #[]
  journal := #[]

/-- The machine with one more event in its journal. -/
def note (m : Machine) (e : Event) : Machine := { m with journal := m.journal.push e }

/-- The machine with the image in its memory. An image that is too long is
refused before any of it is copied. -/
def load (m : Machine) (image : Image) : Except Fault Machine :=
  match m.state.memory.load image with
  | none => .error (.loadOverflow image.size)
  | some memory => .ok ({ m with state := { m.state with memory := memory } }.note (.loaded image.size))

/-- A fresh machine with the image in its memory. -/
def ofImage (image : Image) (config : Config) : Except Fault Machine := (initial config).load image

/-! ## One cycle -/

/-- The row of the next cycle. -/
def nextRow (m : Machine) : TraceRow := .ofState m.state

/-- The machine with the row of the next cycle in its records, as its settings say. -/
def record : Machine → Machine
  | ⟨config, state, rows, journal⟩ =>
    ⟨config, state, if config.keepRows then rows.push (.ofState state) else rows,
      if config.logRows then journal.push (.row (.ofState state)) else journal⟩

/-- The instruction at the program counter. The opcode says how many bytes to
read, and they have to lie inside the memory. -/
def fetch (m : Machine) : Except Fault Instruction :=
  let pc := m.state.pc
  let byte := m.state.memory.read pc
  match Opcode.sizeAt byte with
  | .error e => .error (.ofDecodeError pc e)
  | .ok size =>
    if pc.toNat + size ≤ capacity then
      match Instruction.decode (m.state.memory.slice pc.toNat size) with
      | .ok i => .ok i
      | .error e => .error (.ofDecodeError pc e)
    else .error (.addressOutOfRange ⟨pc, byte⟩ capacity)

/-- Fetch, execute and count one instruction. -/
def cycle [Sink σ] (m : Machine) (out : σ) : Outcome σ Unit :=
  let recorded := m.record
  match recorded.fetch with
  | .error fault => ⟨recorded, out, .error fault⟩
  | .ok i =>
    let effect := i.execute recorded.state out
    match effect.fault with
    | some fault => ⟨{ recorded with state := effect.state }, effect.sink, .error fault⟩
    | none =>
      let counted := { effect.state with cycles := effect.state.cycles + 1 }
      ⟨{ recorded with state := counted }, effect.sink, .ok ()⟩

/-- The machine stopped by the fault. -/
def fail (m : Machine) (fault : Fault) : Machine :=
  { m with state := { m.state with status := .faulted } }.note
    (.faulted fault m.state.pc m.state.cycles)

/-- One cycle of a machine that runs. A halted machine stays as it is, and a
faulted one says so. -/
def step [Sink σ] (m : Machine) (out : σ) : Outcome σ Status :=
  match m.state.status with
  | .running =>
    let done := m.cycle out
    match done.answer with
    | .ok _ => ⟨done.machine, done.sink, .ok done.machine.state.status⟩
    | .error fault => ⟨done.machine.fail fault, done.sink, .error fault⟩
  | .halted reason => ⟨m, out, .ok (.halted reason)⟩
  | .faulted => ⟨m, out, .error .alreadyFaulted⟩

/-! ## Runs -/

@[simp] theorem config_record (m : Machine) : m.record.config = m.config := rfl

@[simp] theorem state_record (m : Machine) : m.record.state = m.state := rfl

/-- A cycle that succeeds is counted, and changes no settings. -/
theorem counted_of_cycle [Sink σ] {m : Machine} {out : σ} (h : (m.cycle out).answer = .ok ()) :
    (m.cycle out).machine.state.cycles = m.state.cycles + 1 ∧
      (m.cycle out).machine.config = m.config := by
  revert h
  simp only [cycle]
  split
  · intro h; cases h
  · split
    · intro h; cases h
    · intro _; simp

/-- So is a step of a running machine that succeeds. -/
theorem counted_of_step [Sink σ] {m : Machine} {out : σ} {status : Status}
    (running : m.state.status = .running) (h : (m.step out).answer = .ok status) :
    (m.step out).machine.state.cycles = m.state.cycles + 1 ∧
      (m.step out).machine.config = m.config := by
  simp only [step, running] at h ⊢
  cases hc : (m.cycle out).answer with
  | error fault => simp [hc] at h
  | ok _ => exact counted_of_cycle hc

/-- A counted cycle below the limit leaves fewer cycles to go. -/
theorem remaining_lt {before after limit : UInt64} (below : before < limit)
    (counted : after = before + 1) : limit.toNat - after.toNat < limit.toNat - before.toNat := by
  subst counted
  have hl := limit.toNat_lt
  rw [UInt64.lt_iff_toNat_lt] at below
  rw [UInt64.toNat_add, show (1 : UInt64).toNat = 1 from rfl]
  omega

/-- The machine stopped by its limit. -/
def exhaust (m : Machine) : Machine :=
  { m with state := { m.state with status := .halted .cycleLimit } }

/-- Steps until the machine stops. A run that ends without a fault is noted in
the journal, also if the machine had stopped before. -/
def run [Sink σ] (m : Machine) (out : σ) : Outcome σ HaltReason :=
  match _running : m.state.status with
  | .running =>
    if _below : m.state.cycles < m.config.maxCycles then
      let next := m.step out
      match _stepped : next.answer with
      | .error fault => ⟨next.machine, next.sink, .error fault⟩
      | .ok _ => run next.machine next.sink
    else ⟨m.exhaust.note (.halted m.state.cycles .cycleLimit), out, .ok .cycleLimit⟩
  | .halted reason => ⟨m.note (.halted m.state.cycles reason), out, .ok reason⟩
  | .faulted => ⟨m, out, .error .alreadyFaulted⟩
termination_by m.config.maxCycles.toNat - m.state.cycles.toNat
decreasing_by
  have counted := counted_of_step _running _stepped
  rw [show next.machine.config = m.config from counted.2]
  exact remaining_lt _below counted.1

/-- What is left of a finished run. -/
structure Report where
  cycles : UInt64
  /-- The values printed. -/
  outputs : List UInt8
  reason : HaltReason
  registers : Registers
  pc : UInt8
  /-- The rows kept. -/
  rows : List TraceRow

/-- Runs the machine and reports. -/
def report (m : Machine) : Except Fault Report :=
  let done := m.run Printed.empty
  match done.answer with
  | .error fault => .error fault
  | .ok reason => .ok {
      cycles := done.machine.state.cycles
      outputs := done.sink.values.toList
      reason := reason
      registers := done.machine.state.registers
      pc := done.machine.state.pc
      rows := done.machine.rows.toList }

end Machine

/-- The values that the image prints on a machine with the usual settings. -/
def Image.outputs (image : Image) : Except Fault (List UInt8) := do
  return (← (← Machine.ofImage image {}).report).outputs

end ByteMachine
