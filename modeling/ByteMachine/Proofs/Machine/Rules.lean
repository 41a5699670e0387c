import ByteMachine.Proofs.Machine.Footprint
import ByteMachine.Proofs.Machine.Path

/-
  The rules of the instructions. For each instruction they say, in terms of the
  state before it, what keeps it from being completed and what it leaves in every
  register, in every cell and in the program counter. They know nothing of the
  order in which the machine does its work; where the order shows, as it does when
  R7 is the operand of a push or a pop, the rule says what comes of it.

    1. `fault_execute_eq_none_iff`: an instruction fails just where the rules say so.
    2. `get_execute_of_ok`, `read_execute`, `pc_execute_of_ok`: otherwise it leaves
       what the rules say.
    3. `step_by_rules`: so does a step of a machine, which counts the cycle as well.
-/

namespace ByteMachine

variable {σ : Type}

/-- What the operation makes of two numbers. -/
def Operation.result : Operation → Nat → Nat → Nat
  | .add, a, b => a + b
  | .mul, a, b => a * b

theorem Operation.apply_eq (op : Operation) (a b : UInt8) :
    op.apply a b = UInt8.ofNat (op.result a.toNat b.toNat % 256) := by
  cases op with
  | add =>
    rw [← UInt8.toNat_inj]
    simp [apply, result]
  | mul =>
    rw [← UInt8.toNat_inj]
    simp [apply, result]

namespace Instruction

/-! ## The rules -/

/-- Whether the instruction cannot be completed: there is no cell for its value or none behind the
one that it takes, or the next instruction would lie outside the memory. A halt stays where it is. -/
def Blocked (i : Instruction) (s : State) : Prop :=
  match i with
  | .push _ => s.sp = 0 ∨ 255 < s.pc.toNat + i.size
  | .call _ => s.sp = 0 ∨ 254 ≤ s.pc.toNat
  | .pop rd => rd ≠ .sp ∧ s.sp = 255 ∨ rd = .sp ∧ s.top = 255 ∨ 255 < s.pc.toNat + i.size
  | .ret => s.sp = 255
  | .ldi _ _ | .prn _ | .alu _ _ _ => 255 < s.pc.toNat + i.size
  | .hlt => False

/-- What a register holds after the instruction. -/
def registerAfter (i : Instruction) (s : State) (r : Register) : UInt8 :=
  match i with
  | .ldi rd imm => if rd = r then imm else s.get r
  | .alu op ra rb =>
    if ra = r then UInt8.ofNat (op.result (s.get ra).toNat (s.get rb).toNat % 256) else s.get r
  | .push _ | .call _ => if .sp = r then s.sp - 1 else s.get r
  | .pop rd =>
    -- A pop into R7 raises the value that it has taken, not the old pointer.
    if .sp = r then (if rd = .sp then s.top else s.sp) + 1
    else if rd = r then s.top else s.get r
  | .ret => if .sp = r then s.sp + 1 else s.get r
  | .hlt | .prn _ => s.get r

/-- What a cell holds after the instruction. A push of R7 stores the lowered pointer. -/
def cellAfter (i : Instruction) (s : State) (a : UInt8) : UInt8 :=
  match i with
  | .push rs => if s.sp - 1 = a then i.registerAfter s rs else s.memory.read a
  | .call _ => if s.sp - 1 = a then s.pc + 2 else s.memory.read a
  | .hlt | .ldi _ _ | .prn _ | .alu _ _ _ | .pop _ | .ret => s.memory.read a

/-- Where the instruction goes on. A call through R7 goes to the lowered pointer. -/
def pcAfter (i : Instruction) (s : State) : Nat :=
  match i with
  | .hlt => min (s.pc.toNat + 1) 255
  | .call rs => (i.registerAfter s rs).toNat
  | .ret => s.top.toNat
  | .ldi _ _ | .prn _ | .alu _ _ _ | .push _ | .pop _ => s.pc.toNat + i.size

/-- The status of the machine after the instruction. -/
def statusAfter : Instruction → Status
  | .hlt => .halted .instruction
  | .ldi _ _ | .prn _ | .alu _ _ _ | .push _ | .pop _ | .call _ | .ret => .running

/-- What is in the sink after the instruction. -/
def sinkAfter [Sink σ] (i : Instruction) (s : State) (out : σ) : σ :=
  match i with
  | .prn rs => (Sink.write out (s.get rs)).1
  | .hlt | .ldi _ _ | .alu _ _ _ | .push _ | .pop _ | .call _ | .ret => out

/-- Whether the sink takes what the instruction prints, if it prints. -/
def Accepted [Sink σ] (i : Instruction) (s : State) (out : σ) : Prop :=
  ∀ rs, i = .prn rs → (Sink.write out (s.get rs)).2 = none

/-- Whether the instruction gets as far as its end: its print is accepted, and there is a cell for the
value that it puts and an address behind the one that it takes. -/
def Works [Sink σ] (i : Instruction) (s : State) (out : σ) : Prop :=
  match i with
  | .ldi _ _ | .alu _ _ _ => True
  | .prn rs => (Sink.write out (s.get rs)).2 = none
  | .push _ => s.sp ≠ 0
  | .pop rd => (if rd = .sp then s.top else s.sp) ≠ 255
  | .hlt | .call _ | .ret => False

/-- Whether the state is one in which the instruction has done all its work and the program counter
has not moved. -/
structure Work (i : Instruction) (s t : State) : Prop where
  registers : ∀ r, t.get r = i.registerAfter s r
  cells : ∀ a, t.memory.read a = i.cellAfter s a
  pc : t.pc = s.pc
  status : t.status = s.status
  cycles : t.cycles = s.cycles

/-! ## Single instructions -/

section Execute
variable [Sink σ] {i : Instruction} {s : State} {out : σ}

theorem execute_prn_of_accepted {rs : Register} (accepted : (prn rs).Accepted s out) :
    (prn rs).execute s out = (prn rs).advance s (Sink.write out (s.get rs)).1 := by
  have taken := accepted rs rfl
  cases written : Sink.write out (s.get rs) with
  | mk sink error =>
    rw [written] at taken
    cases taken
    simp only [execute, written]

/-- At its end an instruction fails if the next one would lie outside the memory. -/
theorem fault_of_advance {t : State} {sink : σ} (same : i.execute s out = i.advance t sink)
    (pc : t.pc = s.pc) : (i.execute s out).fault = none ↔ ¬ 255 < s.pc.toNat + i.size := by
  rw [same, fault_advance_eq_none_iff, pc, capacity]
  omega

theorem sp_loaded (s : State) (rd : Register) :
    (s.set rd s.top).sp = if rd = .sp then s.top else s.sp :=
  s.registers.get_set rd .sp s.top

theorem fault_execute_eq_none_iff (accepted : i.Accepted s out) :
    (i.execute s out).fault = none ↔ ¬ i.Blocked s := by
  have stuck : ∀ {address : Int}, i.outOfRange s address ≠ none := nofun
  cases i with
  | hlt => exact iff_of_true rfl not_false
  | ldi rd imm => exact fault_of_advance rfl rfl
  | alu op ra rb => exact fault_of_advance rfl rfl
  | prn rs => exact fault_of_advance (execute_prn_of_accepted accepted) rfl
  | push rs =>
    by_cases bottom : s.sp = 0
    · rw [execute_push_of_eq rs bottom]
      exact iff_of_false stuck fun free => free (.inl bottom)
    · rw [fault_of_advance (execute_push_of_ne rs bottom) rfl]
      simp only [Blocked, bottom, false_or]
  | pop rd =>
    have last : (s.set rd s.top).sp = 255 ↔
        rd ≠ .sp ∧ s.sp = 255 ∨ rd = .sp ∧ s.top = 255 := by
      rw [sp_loaded]
      by_cases pointer : rd = .sp
      · simp [pointer]
      · simp [pointer]
    by_cases full : (s.set rd s.top).sp = 255
    · rw [execute_pop_of_eq rd full]
      refine iff_of_false stuck fun free => free ?_
      exact or_assoc.mp (.inl (last.mp full))
    · rw [fault_of_advance (execute_pop_of_ne rd full) rfl, Blocked, ← or_assoc, ← last]
      simp only [full, false_or]
  | call rs =>
    by_cases inside : s.pc.toNat + 2 < capacity
    · have early : ¬ 254 ≤ s.pc.toNat := by
        rw [capacity] at inside
        omega
      by_cases bottom : s.sp = 0
      · rw [execute_call_of_eq rs inside bottom]
        exact iff_of_false stuck fun free => free (.inl bottom)
      · rw [execute_call_of_ne rs inside bottom]
        exact iff_of_true rfl fun blocked => blocked.elim bottom early
    · have late : 254 ≤ s.pc.toNat := by
        rw [capacity] at inside
        omega
      rw [execute_call_of_outside rs inside]
      exact iff_of_false stuck fun free => free (.inr late)
  | ret =>
    by_cases full : s.sp = 255
    · rw [execute_ret_of_eq full]
      exact iff_of_false stuck fun free => free full
    · rw [execute_ret_of_ne full]
      exact iff_of_true rfl full

/-! ## The work of an instruction -/

/-- What a push stores is the register as it is when the pointer was lowered. -/
theorem get_lowered (s : State) (rs r : Register) :
    (s.set .sp (s.sp - 1)).get r = (push rs).registerAfter s r :=
  s.get_set .sp r (s.sp - 1)

/-- An instruction that does its work goes on to its end, where it moves the program counter. -/
theorem exists_work (works : i.Works s out) :
    ∃ t, i.execute s out = i.advance t (i.sinkAfter s out) ∧ Work i s t := by
  cases i with
  | hlt | call rs | ret => exact works.elim
  | ldi rd imm => exact ⟨s.set rd imm, rfl, fun r => s.get_set rd r imm, fun _ => rfl, rfl, rfl, rfl⟩
  | alu op ra rb =>
    refine ⟨{ s with registers := s.registers.combine op ra rb }, rfl, ?_, fun _ => rfl, rfl, rfl, rfl⟩
    intro r
    rw [registerAfter, ← op.apply_eq]
    exact s.get_set ra r _
  | prn rs =>
    refine ⟨s, execute_prn_of_accepted ?_, fun _ => rfl, fun _ => rfl, rfl, rfl, rfl⟩
    rintro _ ⟨⟩
    exact works
  | push rs =>
    refine ⟨_, execute_push_of_ne rs works, fun r => get_lowered s rs r, ?_, rfl, rfl, rfl⟩
    intro a
    rw [get_lowered s rs]
    exact s.memory.read_write (s.sp - 1) a _
  | pop rd =>
    have below : (s.set rd s.top).sp ≠ 255 := by rw [sp_loaded]; exact works
    refine ⟨_, execute_pop_of_ne rd below, ?_, fun _ => rfl, rfl, rfl, rfl⟩
    intro r
    rw [State.get_set, State.get_set, sp_loaded]
    rfl

/-- One that goes on behind itself and does not fail has done its work. -/
theorem works_of_ok (goes : i.goesOn = true) (ok : (i.execute s out).fault = none) :
    i.Works s out := by
  cases i with
  | hlt | call rs | ret => cases goes
  | ldi rd imm | alu op ra rb => trivial
  | prn rs =>
    simp only [execute] at ok
    split at ok
    · next written => exact congrArg Prod.snd written
    · cases ok
  | push rs =>
    intro bottom
    rw [execute_push_of_eq rs bottom] at ok
    cases ok
  | pop rd =>
    intro full
    rw [execute_pop_of_eq rd (by rw [sp_loaded]; exact full)] at ok
    cases ok

/-- An instruction that does not fail leaves in each register what the rules say. -/
theorem get_execute_of_ok (ok : (i.execute s out).fault = none) (r : Register) :
    (i.execute s out).state.get r = i.registerAfter s r := by
  have worked : i.goesOn = true → (i.execute s out).state.get r = i.registerAfter s r := by
    intro goes
    obtain ⟨t, same, work⟩ := exists_work (works_of_ok goes ok)
    rw [same, get_advance, work.registers]
  cases i with
  | ldi rd imm | alu op ra rb | prn rs | push rs | pop rd => exact worked rfl
  | hlt => rfl
  | call rs =>
    by_cases inside : s.pc.toNat + 2 < capacity
    · by_cases bottom : s.sp = 0
      · rw [execute_call_of_eq rs inside bottom] at ok
        cases ok
      · rw [execute_call_of_ne rs inside bottom]
        exact s.get_set .sp r (s.sp - 1)
    · rw [execute_call_of_outside rs inside] at ok
      cases ok
  | ret =>
    by_cases full : s.sp = 255
    · rw [execute_ret_of_eq full] at ok
      cases ok
    · rw [execute_ret_of_ne full]
      exact s.get_set .sp r (s.sp + 1)

/-- It leaves in each cell what the rules say. -/
theorem read_execute (free : ¬ i.Blocked s) (a : UInt8) :
    (i.execute s out).state.memory.read a = i.cellAfter s a := by
  rw [memory_execute]
  cases i with
  | hlt | ldi rd imm | alu op ra rb | prn rs | pop rd | ret => rfl
  | push rs =>
    rw [store?, if_neg fun bottom => free (.inl bottom), get_lowered s rs]
    exact s.memory.read_write (s.sp - 1) a _
  | call rs =>
    have inside : s.pc.toNat + 2 < capacity := by
      have early : ¬ 254 ≤ s.pc.toNat := fun late => free (.inr late)
      rw [capacity]
      omega
    rw [store?, if_pos inside, if_neg fun bottom => free (.inl bottom)]
    exact s.memory.read_write (s.sp - 1) a _

/-- It goes on where the rules say. -/
theorem pc_execute_of_ok (ok : (i.execute s out).fault = none) :
    (i.execute s out).state.pc.toNat = i.pcAfter s := by
  cases i with
  | ldi rd imm | alu op ra rb | prn rs | push rs | pop rd => exact pc_execute rfl ok
  | hlt =>
    show (if s.pc = 255 then s.pc else s.pc + 1).toNat = min (s.pc.toNat + 1) 255
    by_cases last : s.pc = 255
    · rw [if_pos last, last]
      rfl
    · have next := State.toNat_add_one last
      have := (s.pc + 1).toNat_lt
      rw [if_neg last]
      omega
  | call rs =>
    by_cases inside : s.pc.toNat + 2 < capacity
    · by_cases bottom : s.sp = 0
      · rw [execute_call_of_eq rs inside bottom] at ok
        cases ok
      · rw [execute_call_of_ne rs inside bottom]
        exact congrArg UInt8.toNat (get_lowered s rs rs)
    · rw [execute_call_of_outside rs inside] at ok
      cases ok
  | ret =>
    by_cases full : s.sp = 255
    · rw [execute_ret_of_eq full] at ok
      cases ok
    · rw [execute_ret_of_ne full]
      rfl

theorem status_execute_of_running (running : s.status = .running) :
    (i.execute s out).state.status = i.statusAfter := by
  by_cases halt : i = .hlt
  · rw [halt]
    rfl
  · rw [status_execute halt, running]
    cases i with
    | hlt => exact absurd rfl halt
    | _ => rfl

theorem sink_execute (accepted : i.Accepted s out) :
    (i.execute s out).sink = i.sinkAfter s out := by
  cases i with
  | prn rs =>
    rw [execute_prn_of_accepted accepted]
    exact sink_advance ..
  | _ => exact (execute_frame _ s out).2.resolve_left nofun

end Execute

end Instruction

/-! ## Steps of a machine -/

namespace Machine

/-- What a completed step of the instruction leaves of a state and a sink. -/
structure ByRules [Sink σ] (i : Instruction) (s : State) (out : σ) (after : State) (sink : σ) :
    Prop where
  registers : ∀ r, after.get r = i.registerAfter s r
  cells : ∀ a, after.memory.read a = i.cellAfter s a
  pc : after.pc.toNat = i.pcAfter s
  status : after.status = i.statusAfter
  cycles : after.cycles.toNat = s.cycles.toNat + 1
  sink : sink = i.sinkAfter s out

variable [Sink σ] {m : Machine} {i : Instruction} {out : σ}

/-- A step of a running machine, whatever its settings, succeeds just if nothing blocks the
instruction at the program counter, and then it leaves what the rules say. -/
theorem step_by_rules (running : m.state.status = .running)
    (counts : m.state.cycles.toNat + 1 < UInt64.size)
    (decoded : Instruction.decode m.ahead = .ok i) (accepted : i.Accepted m.state out) :
    ((∃ status, (m.step out).answer = .ok status) ↔ ¬ i.Blocked m.state) ∧
    (¬ i.Blocked m.state →
      (m.step out).answer = .ok i.statusAfter ∧
      ByRules i m.state out (m.step out).machine.state (m.step out).sink) := by
  have fetched := fetch_eq_ok_iff.mpr decoded
  have ok_iff := Instruction.fault_execute_eq_none_iff accepted
  have status : (i.execute m.state out).state.status = i.statusAfter :=
    Instruction.status_execute_of_running running
  have completed : ¬ i.Blocked m.state → (m.step out).answer = .ok i.statusAfter ∧
      ByRules i m.state out (m.step out).machine.state (m.step out).sink := by
    intro free
    have ok := ok_iff.mpr free
    rw [step_of_execute_ok running fetched ok]
    refine ⟨congrArg Except.ok status, Instruction.get_execute_of_ok ok,
      Instruction.read_execute free, Instruction.pc_execute_of_ok ok, status, ?_,
      Instruction.sink_execute accepted⟩
    show (m.state.cycles + 1).toNat = m.state.cycles.toNat + 1
    rw [UInt64.toNat_add, show (1 : UInt64).toNat = 1 from rfl]
    exact Nat.mod_eq_of_lt counts
  refine ⟨⟨?_, fun free => ⟨_, (completed free).1⟩⟩, completed⟩
  rintro ⟨status, stepped⟩
  obtain ⟨j, fetched', ok, -⟩ := exists_counted_of_step running stepped
  rw [fetched] at fetched'
  cases fetched'
  exact ok_iff.mp ok

/-- A machine that has R7 as both operands of a multiplication, in the last bytes from which it can
still go on. -/
def squarePointer : Machine :=
  { initial {} with
    state := { State.initial defaultStackTop with
      pc := 252
      memory := ((Memory.zero.write 252 0xA2).write 253 Register.sp.byte).write 254
        Register.sp.byte } }

/-- The product of 244 with itself is 144 in one byte, and the next address is 255. -/
theorem step_by_rules_square_pointer :
    squarePointer.state.status = .running ∧
    squarePointer.state.cycles.toNat + 1 < UInt64.size ∧
    Instruction.decode squarePointer.ahead = .ok (.alu .mul .sp .sp) ∧
    (Instruction.alu .mul .sp .sp).Accepted squarePointer.state Printed.empty ∧
    ¬ (Instruction.alu .mul .sp .sp).Blocked squarePointer.state ∧
    (squarePointer.step Printed.empty).machine.state.sp = 144 ∧
    (squarePointer.step Printed.empty).machine.state.pc.toNat = 255 := by
  have decoded : Instruction.decode squarePointer.ahead = .ok (.alu .mul .sp .sp) := by
    have ahead : squarePointer.ahead = [0xA2, 0x07, 0x07, 0x00] := by decide +kernel
    rw [ahead]
    rfl
  have accepted : (Instruction.alu .mul .sp .sp).Accepted squarePointer.state Printed.empty := nofun
  have free : ¬ (Instruction.alu .mul .sp .sp).Blocked squarePointer.state := by
    show ¬ 255 < 252 + (Instruction.alu .mul .sp .sp).size
    decide
  obtain ⟨-, completed⟩ := step_by_rules rfl (by decide) decoded accepted
  obtain ⟨-, rules⟩ := completed free
  exact ⟨rfl, by decide, decoded, accepted, free, rules.registers .sp, rules.pc⟩

end Machine

end ByteMachine
