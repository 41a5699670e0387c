import ByteMachine.Proofs.Machine.History
import ByteMachine.Proofs.Machine.Rules

/-
  How a step fails. There are seven ways, and with the fault that it answers each of
  them leaves a state and a sink of its own: an instruction has done something before
  its fault in some of them and nothing in the others. Of a running machine:

    1. `step_of_failure`: where one of these can happen, it does, and the step leaves
       just that.
    2. `exists_failure`: a step that answers a fault has failed in one of these ways.
    3. `Failure.site` and `Failure.address`: the fault names the program counter and the
       byte there as they were before the step, and no address but -1 and 256.
    4. `failures_are_reported` puts this together.
-/

namespace ByteMachine

open Instruction (decode)

variable {σ : Type}

/-! ## What the fault of a decoder names -/

/-- Whatever is wrong with some bytes, the fault names the first of them. -/
theorem site_ofDecodeError {pc byte : UInt8} {rest : List UInt8} {e : DecodeError}
    (wrong : decode (byte :: rest) = .error e) :
    (Fault.ofDecodeError pc e).site? = some ⟨pc, byte⟩ := by
  cases assigned : Opcode.ofByte? byte with
  | none =>
    rw [Instruction.decode_of_no_opcode assigned] at wrong
    cases wrong
    split <;> rfl
  | some op =>
    have own := Opcode.ofByte?_eq_some_iff.mp assigned
    rw [Instruction.decode_of_opcode assigned] at wrong
    by_cases short : rest.length + 1 < op.size
    · rw [Instruction.decodeOperands_of_short short] at wrong
      cases wrong
      rw [own]
      rfl
    · obtain ⟨index, rfl⟩ := Instruction.error_of_decodeOperands (Nat.le_of_not_lt short) wrong
      rw [own]
      rfl

/-- There is one state in which an instruction has done its work. -/
theorem Instruction.Work.unique {i : Instruction} {s t u : State} (h : Work i s t)
    (h' : Work i s u) : t = u := by
  have registers : t.registers = u.registers :=
    Registers.ext_get fun r => (h.registers r).trans (h'.registers r).symm
  have memory : t.memory = u.memory :=
    Memory.ext_read fun a => (h.cells a).trans (h'.cells a).symm
  calc t = ⟨t.registers, t.pc, t.memory, t.status, t.cycles⟩ := rfl
    _ = ⟨u.registers, u.pc, u.memory, u.status, u.cycles⟩ := by
      rw [registers, memory, h.pc, h'.pc, h.status, h'.status, h.cycles, h'.cycles]
    _ = u := rfl

namespace Machine

variable {m : Machine}

/-! ## Where a step fails -/

/-- Where the next instruction stands. -/
def site (m : Machine) : Site := ⟨m.state.pc, m.opcodeByte⟩

/-- The fault of a step that needs the given address. -/
def outOfRange (m : Machine) (address : Int) : Fault := .addressOutOfRange m.site address

/-- What is decoded has its opcode at the program counter, and lies inside the memory. -/
theorem place_of_decode {i : Instruction} (decoded : decode m.ahead = .ok i) :
    i.site m.state = m.site ∧ m.state.pc.toNat + i.size ≤ capacity := by
  obtain ⟨rest, ahead, length⟩ := m.exists_ahead
  have own := Instruction.encode_prefix_of_decode decoded
  have short := own.length_le
  rw [ahead, Instruction.encode, List.cons_prefix_cons] at own
  rw [ahead, i.length_encode, List.length_cons] at short
  refine ⟨?_, by omega⟩
  rw [Instruction.site, own.1, site]

theorem outOfRange_of_decode {i : Instruction} (decoded : decode m.ahead = .ok i) (address : Int) :
    i.outOfRange m.state address = some (m.outOfRange address) := by
  rw [Instruction.outOfRange, (place_of_decode decoded).1, outOfRange]

/-- A call can keep its way back unless it stands in the last two bytes. -/
theorem call_inside_iff {rs : Register} (decoded : decode m.ahead = .ok (.call rs)) :
    m.state.pc.toNat + 2 < capacity ↔ m.state.pc ≠ 254 := by
  have size := (place_of_decode decoded).2
  rw [size_call, capacity] at size
  rw [capacity, Ne, ← UInt8.toNat_inj, show (254 : UInt8).toNat = 254 from rfl]
  omega

/-- An instruction that has done its work fails if the next one would lie outside the memory. -/
theorem advance_of_outside {i : Instruction} {t : State} (decoded : decode m.ahead = .ok i)
    (outside : 255 < m.state.pc.toNat + i.size) (work : i.Work m.state t) (sink : σ) :
    i.advance t sink = ⟨t, sink, some (m.outOfRange 256)⟩ := by
  have inside := (place_of_decode decoded).2
  have last : m.state.pc.toNat + i.size = 256 := by
    rw [capacity] at inside
    omega
  have site : i.site t = m.site := by
    rw [← (place_of_decode decoded).1, Instruction.site, Instruction.site, work.pc]
  have past : ¬ t.pc.toNat + i.size < capacity := by
    rw [work.pc, last, capacity]
    omega
  have address : ((t.pc.toNat + i.size : Nat) : Int) = 256 := by
    rw [work.pc, last]
    rfl
  simp only [Instruction.advance, if_neg past, Instruction.outOfRange, site, address, outOfRange]

/-! ## The ways to fail -/

/-- A way in which the next step fails: its fault, and the state and the sink that the instruction
leaves behind. -/
inductive Failure [Sink σ] (m : Machine) (out : σ) : Fault → State → σ → Prop
  /-- The bytes ahead are no instruction, and nothing is done. -/
  | undecoded {e : DecodeError} (wrong : decode m.ahead = .error e) :
      Failure m out (.ofDecodeError m.state.pc e) m.state out
  /-- The sink does not take the value, and nothing else is done. -/
  | refused {rs : Register} {cause : SinkError} (decoded : decode m.ahead = .ok (.prn rs))
      (full : (Sink.write out (m.state.get rs)).2 = some cause) :
      Failure m out (.output cause) m.state (Sink.write out (m.state.get rs)).1
  /-- There is no cell for the value that a push or a call puts, and nothing is done. -/
  | bottom {i : Instruction} (decoded : decode m.ahead = .ok i) (puts : i.puts = true)
      (early : ∀ rs, i = .call rs → m.state.pc ≠ 254) (bottom : m.state.sp = 0) :
      Failure m out (m.outOfRange (-1)) m.state out
  /-- The way back of a call would lie outside the memory. It is looked at before the stack is, so
  nothing is done then either. -/
  | stranded {rs : Register} (decoded : decode m.ahead = .ok (.call rs)) (late : m.state.pc = 254) :
      Failure m out (m.outOfRange 256) m.state out
  /-- A pop has put the value into its register, and there is no address behind the pointer. -/
  | popped {rd : Register} (decoded : decode m.ahead = .ok (.pop rd))
      (top : (if rd = .sp then m.state.top else m.state.sp) = 255) :
      Failure m out (m.outOfRange 256) (m.state.set rd (m.state.memory.read m.state.sp)) out
  /-- A return has gone back, and there is no address behind the pointer. -/
  | returned (decoded : decode m.ahead = .ok .ret) (top : m.state.sp = 255) :
      Failure m out (m.outOfRange 256) { m.state with pc := m.state.memory.read 255 } out
  /-- All the work is done, but the next instruction would lie outside the memory. -/
  | outside {i : Instruction} {t : State} (decoded : decode m.ahead = .ok i)
      (works : i.Works m.state out) (outside : 255 < m.state.pc.toNat + i.size)
      (work : i.Work m.state t) :
      Failure m out (m.outOfRange 256) t (i.sinkAfter m.state out)

section Steps
variable [Sink σ] {out sink : σ} {fault : Fault} {i : Instruction} {t : State}

theorem step_of_effect (running : m.state.status = .running) (decoded : decode m.ahead = .ok i)
    (effect : i.execute m.state out = ⟨t, sink, some fault⟩) :
    m.step out = ⟨{ m.record with state := t }.fail fault, sink, .error fault⟩ := by
  have wrong : (i.execute m.state out).fault = some fault := by rw [effect]
  rw [step_of_execute_fault running (fetch_eq_ok_iff.mpr decoded) wrong, effect]

/-- Where a step can fail, it does, and leaves just this. -/
theorem step_of_failure (running : m.state.status = .running) (failure : Failure m out fault t sink) :
    m.step out = ⟨{ m.record with state := t }.fail fault, sink, .error fault⟩ := by
  cases failure with
  | undecoded wrong =>
    exact step_of_fetch_error running (fetch_eq_error_iff.mpr ⟨_, wrong, rfl⟩)
  | @refused rs cause decoded full =>
    apply step_of_effect running decoded
    rw [Instruction.execute]
    cases written : Sink.write out (m.state.get rs) with
    | mk after error =>
      rw [written] at full
      cases full
      rfl
  | @bottom i decoded puts early bottom =>
    apply step_of_effect running decoded
    rw [← outOfRange_of_decode decoded]
    cases i with
    | push rs => exact execute_push_of_eq rs bottom
    | call rs => exact execute_call_of_eq rs ((call_inside_iff decoded).mpr (early rs rfl)) bottom
    | hlt | ldi rd imm | prn rs | alu op ra rb | pop rd | ret => cases puts
  | @stranded rs decoded late =>
    have outside : ¬ m.state.pc.toNat + 2 < capacity :=
      fun inside => (call_inside_iff decoded).mp inside late
    apply step_of_effect running decoded
    rw [← outOfRange_of_decode decoded, execute_call_of_outside rs outside, late]
    rfl
  | @popped rd decoded top =>
    apply step_of_effect running decoded
    rw [← outOfRange_of_decode decoded]
    exact execute_pop_of_eq rd ((Instruction.sp_loaded m.state rd).trans top)
  | returned decoded top =>
    apply step_of_effect running decoded
    rw [← outOfRange_of_decode decoded, execute_ret_of_eq top, State.top, top]
    rfl
  | @outside i t decoded works outside work =>
    obtain ⟨u, same, work'⟩ := Instruction.exists_work works
    apply step_of_effect running decoded
    rw [same, work'.unique work]
    exact advance_of_outside decoded outside work (i.sinkAfter m.state out)

/-- An instruction that fails before its end has failed in one of the other ways. -/
theorem exists_failure_of_idle (decoded : decode m.ahead = .ok i) (goes : i.goesOn = true)
    (idle : ¬ i.Works m.state out) : ∃ fault t sink, Failure m out fault t sink := by
  cases i with
  | hlt | call rs | ret => cases goes
  | ldi rd imm | alu op ra rb => exact absurd trivial idle
  | prn rs =>
    cases full : (Sink.write out (m.state.get rs)).2 with
    | none => exact absurd full idle
    | some cause => exact ⟨_, _, _, .refused decoded full⟩
  | push rs => exact ⟨_, _, _, .bottom decoded rfl nofun (Decidable.of_not_not idle)⟩
  | pop rd => exact ⟨_, _, _, .popped decoded (Decidable.of_not_not idle)⟩

/-- A step that answers a fault has failed in one of these ways. -/
theorem exists_failure (running : m.state.status = .running)
    (stepped : (m.step out).answer = .error fault) : ∃ t sink, Failure m out fault t sink := by
  -- It is enough to find a way to fail: the step then takes it.
  suffices some : ∃ fault t sink, Failure m out fault t sink by
    obtain ⟨other, t, sink, failure⟩ := some
    rw [step_of_failure running failure] at stepped
    cases stepped
    exact ⟨t, sink, failure⟩
  cases stepEnd_of_running running out with
  | counted i fetched ok same =>
    rw [same] at stepped
    cases stepped
  | unread cause fetched same =>
    obtain ⟨e, wrong, rfl⟩ := fetch_eq_error_iff.mp fetched
    exact ⟨_, _, _, .undecoded wrong⟩
  | failed i cause fetched wrong same =>
    have decoded := fetch_eq_ok_iff.mp fetched
    have goesOn : i.goesOn = true → ∃ fault t sink, Failure m out fault t sink := by
      intro goes
      by_cases works : i.Works m.state out
      · obtain ⟨t, same, work⟩ := Instruction.exists_work works
        have outside : 255 < m.state.pc.toNat + i.size := by
          refine Nat.lt_of_not_le fun inside => ?_
          have inside : m.state.pc.toNat + i.size < capacity := Nat.lt_succ_of_le inside
          rw [same, Instruction.fault_advance, work.pc, if_pos inside] at wrong
          cases wrong
        exact ⟨_, _, _, .outside decoded works outside work⟩
      · exact exists_failure_of_idle decoded goes works
    cases i with
    | ldi rd imm | prn rs | alu op ra rb | push rs | pop rd => exact goesOn rfl
    | hlt => cases wrong
    | call rs =>
      by_cases late : m.state.pc = 254
      · exact ⟨_, _, _, .stranded decoded late⟩
      · have bottom : m.state.sp = 0 := by
          refine Decidable.byContradiction fun room => ?_
          rw [execute_call_of_ne rs ((call_inside_iff decoded).mpr late) room] at wrong
          cases wrong
        exact ⟨_, _, _, .bottom decoded rfl (fun _ _ => late) bottom⟩
    | ret =>
      have top : m.state.sp = 255 := by
        refine Decidable.byContradiction fun below => ?_
        rw [execute_ret_of_ne below] at wrong
        cases wrong
      exact ⟨_, _, _, .returned decoded top⟩

/-! ## What the fault says -/

/-- A fault that has a site has that of the instruction, as it was before the step. -/
theorem Failure.site (failure : Failure m out fault t sink) {site : Site}
    (named : fault.site? = some site) : site = ⟨m.state.pc, m.state.memory.read m.state.pc⟩ := by
  cases failure with
  | @undecoded e wrong =>
    obtain ⟨rest, ahead, -⟩ := m.exists_ahead
    rw [ahead] at wrong
    rw [site_ofDecodeError wrong] at named
    cases named
    rfl
  | refused => cases named
  | bottom | stranded | popped | returned | outside =>
    cases named
    rfl

/-- An address out of range is the one in front of the memory or the one behind it. -/
theorem Failure.address (failure : Failure m out fault t sink) {site : Site} {address : Int}
    (named : fault = .addressOutOfRange site address) : address = -1 ∨ address = 256 := by
  cases failure with
  | @undecoded e wrong =>
    cases e with
    | truncated opcode expected found =>
      rw [ofDecodeError_truncated wrong] at named
      cases named
      exact .inr rfl
    | unknownOpcode | unsupportedOperation | invalidRegister => cases named
  | refused => cases named
  | bottom =>
    cases named
    exact .inl rfl
  | stranded | popped | returned | outside =>
    cases named
    exact .inr rfl

/-- What is true of a step that answers a fault. -/
structure Reported (m : Machine) (out : σ) (fault : Fault) : Prop where
  status : (m.step out).machine.state.status = .faulted
  /-- Of a status and a halt reason that are kept in a cell each, only the status is written. -/
  cells : ∀ c : Cells, c.write (.attempt (m.attempt out)) = c.fault
  reason : (m.step out).machine.state.status.haltReason? = m.state.status.haltReason?
  cycles : (m.step out).machine.state.cycles = m.state.cycles
  /-- The fault names the program counter, and the byte that was there, before the step. -/
  site : ∀ site, fault.site? = some site → site = ⟨m.state.pc, m.state.memory.read m.state.pc⟩
  address : ∀ site address, fault = .addressOutOfRange site address → address = -1 ∨ address = 256
  /-- It comes from one of the ways to fail, and nothing but what this one does was done. -/
  failure : ∃ t sink, Failure m out fault t sink ∧
    m.step out = ⟨{ m.record with state := t }.fail fault, sink, .error fault⟩

theorem write_of_step_error (running : m.state.status = .running)
    (stepped : (m.step out).answer = .error fault) (c : Cells) :
    c.write (.attempt (m.attempt out)) = c.fault := by
  have missed : (m.attempt out).executed? = none := by
    cases stepEnd_of_running running out with
    | unread cause fetched same => exact executed?_of_unread fetched
    | failed i cause fetched wrong same => exact executed?_of_failed fetched wrong
    | counted i fetched ok same =>
      rw [same] at stepped
      cases stepped
  have attempted : m.attempt out = ⟨m.state, none⟩ := congrArg (Attempt.mk m.state) missed
  rw [attempted]
  rfl

/-- A step that answers a fault says where it failed and leaves what that way to fail leaves, and a
step for which there is a way to fail takes it. A call in the last two bytes that has no cell for its
way back either fails for the address behind the memory. -/
theorem failures_are_reported (running : m.state.status = .running) (out : σ) :
    (∀ fault, (m.step out).answer = .error fault → Reported m out fault) ∧
    (∀ fault t sink, Failure m out fault t sink →
      m.step out = ⟨{ m.record with state := t }.fail fault, sink, .error fault⟩) ∧
    (∀ rs, decode m.ahead = .ok (.call rs) → m.state.pc = 254 → m.state.sp = 0 →
      (m.step out).answer = .error (m.outOfRange 256)) := by
  refine ⟨?_, fun _ _ _ => step_of_failure running, ?_⟩
  · intro fault stepped
    obtain ⟨t, sink, failure⟩ := exists_failure running stepped
    obtain ⟨status, cycles⟩ := faulted_of_step running stepped
    refine ⟨status, write_of_step_error running stepped, ?_, cycles, fun _ => failure.site,
      fun _ _ => failure.address, t, sink, failure, step_of_failure running failure⟩
    rw [status, running]
    rfl
  · intro rs decoded late _
    rw [step_of_failure running (.stranded decoded late)]

/-- A call in the last two bytes of the memory, with the stack pointer at 0. -/
def callAtEnd : Machine :=
  { initial {} with
    state := { State.initial 0 with pc := 254, memory := Memory.zero.write 254 0x50 } }

/-- It has neither a way back nor a cell for it, and nothing but its status changes. -/
theorem failures_are_reported_call_at_end :
    callAtEnd.state.status = .running ∧
    Instruction.decode callAtEnd.ahead = .ok (.call ⟨0⟩) ∧
    callAtEnd.state.pc = 254 ∧ callAtEnd.state.sp = 0 ∧
    (callAtEnd.step Printed.empty).answer = .error (.addressOutOfRange ⟨254, 0x50⟩ 256) ∧
    (callAtEnd.step Printed.empty).machine.state = { callAtEnd.state with status := .faulted } := by
  have decoded : Instruction.decode callAtEnd.ahead = .ok (.call ⟨0⟩) := by
    have ahead : callAtEnd.ahead = [0x50, 0x00] := by decide +kernel
    rw [ahead]
    rfl
  have bottom : callAtEnd.state.sp = 0 := by decide +kernel
  have site : callAtEnd.outOfRange 256 = .addressOutOfRange ⟨254, 0x50⟩ 256 := by decide +kernel
  have running : callAtEnd.state.status = .running := rfl
  obtain ⟨-, taken, answer⟩ := failures_are_reported running Printed.empty
  have answered := answer ⟨0⟩ decoded rfl bottom
  rw [site] at answered
  refine ⟨running, decoded, rfl, bottom, answered, ?_⟩
  rw [taken _ _ _ (.stranded decoded rfl)]
  rfl

end Steps

end Machine

end ByteMachine
