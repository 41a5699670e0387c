import ByteMachine.Fault
import ByteMachine.Machine.State

/-
  What each instruction does. An instruction that does not set the program
  counter itself moves it past its own bytes at the end, which is a fault if
  that leaves the memory; only a halt stays in place then. A faulting
  instruction keeps whatever it had done before the fault: the effect of an
  instruction is always a state and a sink, and with them perhaps a fault.

  The stack moves before a pushed register is read and after a popped one is
  written, so that `PUSH R7` stores the lowered pointer and `POP R7` leaves the
  loaded value plus one.
-/

namespace ByteMachine

/-- What an instruction leaves behind. -/
structure Effect (σ : Type) where
  state : State
  sink : σ
  fault : Option Fault

namespace Registers

/-- The registers after an operation on two of them, whose result is in the first. -/
def combine (rs : Registers) (op : Operation) (ra rb : Register) : Registers :=
  rs.set ra (op.apply (rs.get ra) (rs.get rb))

/-- The registers after the operation of the given name. -/
def combineNamed (rs : Registers) (name : String) (ra rb : Register) : Except Fault Registers :=
  match Operation.ofName name with
  | .ok op => .ok (rs.combine op ra rb)
  | .error cause => .error (.violation cause)

end Registers

variable {σ : Type}

namespace Instruction

/-- Where the instruction stands when it is executed in the state. -/
def site (i : Instruction) (s : State) : Site := ⟨s.pc, i.opcode.byte⟩

/-- The fault of an instruction that needs the given address. -/
def outOfRange (i : Instruction) (s : State) (address : Int) : Option Fault :=
  some (.addressOutOfRange (i.site s) address)

/-- The end of an instruction that goes on right behind itself. -/
def advance (i : Instruction) (s : State) (out : σ) : Effect σ :=
  let next := s.pc.toNat + i.size
  if next < capacity then ⟨{ s with pc := UInt8.ofNat next }, out, none⟩
  else ⟨s, out, i.outOfRange s next⟩

/-- The effect of the instruction. -/
def execute [Sink σ] (i : Instruction) (s : State) (out : σ) : Effect σ :=
  match i with
  | .hlt =>
    let pc := if s.pc = 255 then s.pc else s.pc + 1
    ⟨{ s with status := .halted .instruction, pc := pc }, out, none⟩
  | .ldi rd imm => i.advance (s.set rd imm) out
  | .prn rs =>
    match Sink.write out (s.get rs) with
    | (out, none) => i.advance s out
    | (out, some cause) => ⟨s, out, some (.output cause)⟩
  | .alu op ra rb => i.advance { s with registers := s.registers.combine op ra rb } out
  | .push rs =>
    match s.push fun lowered => lowered.get rs with
    | some pushed => i.advance pushed out
    | none => ⟨s, out, i.outOfRange s (-1)⟩
  | .pop rd =>
    let loaded := s.set rd s.top
    match loaded.raise with
    | some raised => i.advance raised out
    | none => ⟨loaded, out, i.outOfRange s capacity⟩
  | .call rs =>
    if s.pc.toNat + i.size < capacity then
      match s.push fun _ => s.pc + 2 with
      | some pushed => ⟨{ pushed with pc := pushed.get rs }, out, none⟩
      | none => ⟨s, out, i.outOfRange s (-1)⟩
    else ⟨s, out, i.outOfRange s (s.pc.toNat + i.size)⟩
  | .ret =>
    let returned := { s with pc := s.top }
    match returned.raise with
    | some raised => ⟨raised, out, none⟩
    | none => ⟨returned, out, i.outOfRange s capacity⟩

/-! ## What no instruction changes -/

@[simp] theorem cycles_advance (i : Instruction) (s : State) (out : σ) :
    (i.advance s out).state.cycles = s.cycles := by
  unfold advance
  dsimp only
  split <;> rfl

theorem cycles_push {s pushed : State} {value : State → UInt8} (h : s.push value = some pushed) :
    pushed.cycles = s.cycles := by
  unfold State.push at h
  split at h
  · cases h
  · cases h; rfl

theorem cycles_raise {s raised : State} (h : s.raise = some raised) :
    raised.cycles = s.cycles := by
  unfold State.raise at h
  split at h
  · cases h
  · cases h; rfl

/-- Counting cycles is not the work of instructions. -/
@[simp] theorem cycles_execute [Sink σ] (i : Instruction) (s : State) (out : σ) :
    (i.execute s out).state.cycles = s.cycles := by
  cases i with
  | hlt => rfl
  | ldi rd imm => simp [execute, State.set]
  | prn rs =>
    simp only [execute]
    split
    · simp
    · rfl
  | alu op ra rb => simp [execute]
  | push rs =>
    simp only [execute]
    split
    · next h => simp [cycles_push h]
    · rfl
  | pop rd =>
    simp only [execute]
    split
    · next h => simpa [State.set] using cycles_raise h
    · rfl
  | call rs =>
    simp only [execute]
    split
    · split
      · next h =>
        have counted := cycles_push h
        exact counted
      · rfl
    · rfl
  | ret =>
    simp only [execute]
    split
    · next h =>
      have counted := cycles_raise h
      exact counted
    · rfl

end Instruction

end ByteMachine
