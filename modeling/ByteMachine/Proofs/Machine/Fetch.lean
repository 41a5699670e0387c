import ByteMachine.Machine
import ByteMachine.Proofs.Instruction.Codec
import ByteMachine.Proofs.Machine.Execution

/-
  Fetching. The machine looks up how many bytes the opcode at the program counter
  asks for, sees for itself whether the memory has them, and then decodes just
  these bytes. This is the same as decoding everything from the program counter
  to the end of the memory:

    1. `fetch_eq_decode`: the two give the same instruction or the same fault. An
       instruction that the end of the memory cuts short is the fault of the
       address 256 either way.
    2. `stepEnd_of_running`: a step of a running machine fetches nothing, or
       executes what it fetched and either fails or is counted. What later files
       say about steps is read off these three cases.
    3. `machine_decodes_memory`: so a step faults before it executes anything just
       if the bytes ahead do not decode, and then it changes the status alone.
-/

namespace ByteMachine

namespace Memory

/-- From any address on there is a first byte, and the bytes up to the end of the memory. -/
theorem exists_drop_toList (m : Memory) (a : UInt8) :
    ∃ rest, m.toList.drop a.toNat = m.read a :: rest ∧ a.toNat + (rest.length + 1) = capacity := by
  have below : a.toNat < capacity := a.toNat_lt
  have length : (m.toList.drop a.toNat).length = capacity - a.toNat := by
    rw [List.length_drop, length_toList]
  have first : (m.toList.drop a.toNat).head? = some (m.read a) := by
    rw [List.head?_drop, getElem?_toList, get?_eq_read]
  cases cells : m.toList.drop a.toNat with
  | nil =>
    rw [cells] at first
    cases first
  | cons byte rest =>
    rw [cells] at first length
    cases first
    rw [List.length_cons] at length
    exact ⟨rest, rfl, by omega⟩

end Memory

namespace Machine

variable {σ : Type} {m : Machine}

/-- The bytes from the program counter to the end of the memory. -/
def ahead (m : Machine) : List UInt8 := m.state.memory.toList.drop m.state.pc.toNat

/-- The byte at the program counter. -/
def opcodeByte (m : Machine) : UInt8 := m.state.memory.read m.state.pc

/-- The fault of an instruction that the end of the memory cuts short. -/
def cutShort (m : Machine) : Fault := .addressOutOfRange ⟨m.state.pc, m.opcodeByte⟩ capacity

theorem exists_ahead (m : Machine) :
    ∃ rest, m.ahead = m.opcodeByte :: rest ∧ m.state.pc.toNat + (rest.length + 1) = capacity :=
  m.state.memory.exists_drop_toList m.state.pc

/-- What decoding misses at the end of the memory is the address right behind it. -/
theorem ofDecodeError_truncated {opcode : UInt8} {expected found : Nat}
    (h : Instruction.decode m.ahead = .error (.truncated opcode expected found)) :
    Fault.ofDecodeError m.state.pc (.truncated opcode expected found) = m.cutShort := by
  obtain ⟨rest, ahead, length⟩ := m.exists_ahead
  rw [ahead] at h
  obtain ⟨rfl, -, rfl, -⟩ := Instruction.decode_eq_truncated_iff.mp h
  have behind : (m.state.pc.toNat : Int) + ((m.opcodeByte :: rest).length : Nat) = capacity := by
    rw [List.length_cons]
    omega
  rw [Fault.ofDecodeError, behind, cutShort]

/-- Decoding finds the bytes cut short just if the opcode asks for more than the memory has. -/
theorem decode_ahead_truncated_iff {size : Nat} :
    Instruction.decode m.ahead = .error (.truncated m.opcodeByte size (capacity - m.state.pc.toNat)) ↔
      Opcode.sizeAt m.opcodeByte = .ok size ∧ capacity < m.state.pc.toNat + size := by
  obtain ⟨rest, ahead, length⟩ := m.exists_ahead
  rw [ahead, Instruction.decode_eq_truncated_iff, List.length_cons, Opcode.sizeAt_eq_ok_iff]
  constructor
  · rintro ⟨-, assigned, -, less⟩
    exact ⟨assigned, by omega⟩
  · rintro ⟨assigned, outside⟩
    exact ⟨rfl, assigned, by omega, by omega⟩

/-- Fetching is decoding what is ahead. -/
theorem fetch_eq_decode (m : Machine) :
    m.fetch = (Instruction.decode m.ahead).mapError (Fault.ofDecodeError m.state.pc) := by
  obtain ⟨rest, ahead, length⟩ := m.exists_ahead
  have byte : m.state.memory.read m.state.pc = m.opcodeByte := rfl
  cases classified : Opcode.classify m.opcodeByte with
  | error e =>
    have size : Opcode.sizeAt m.opcodeByte = .error e := by rw [Opcode.sizeAt, classified]; rfl
    simp only [fetch, byte, size]
    rw [ahead, Instruction.decode, classified]
    rfl
  | ok op =>
    have size : Opcode.sizeAt m.opcodeByte = .ok op.size := by rw [Opcode.sizeAt, classified]; rfl
    simp only [fetch, byte, size]
    by_cases inside : m.state.pc.toNat + op.size ≤ capacity
    · -- The slice has all that the opcode asks for, so what stands behind it does not count.
      have assigned : Opcode.ofByte? m.opcodeByte = some op :=
        Opcode.ofByte?_eq_some_iff.mpr (Opcode.classify_eq_ok_iff.mp classified)
      have enough : op.size ≤ (m.opcodeByte :: rest).length := by
        rw [List.length_cons]
        omega
      have slice : m.state.memory.slice m.state.pc.toNat op.size = m.ahead.take op.size :=
        Memory.slice_eq_take_drop ..
      rw [if_pos inside, slice, ahead, Instruction.decode_take assigned enough]
      cases Instruction.decode (m.opcodeByte :: rest) <;> rfl
    · have short := decode_ahead_truncated_iff.mpr ⟨size, Nat.lt_of_not_le inside⟩
      rw [if_neg inside, short]
      show _ = Except.error (Fault.ofDecodeError m.state.pc
        (.truncated m.opcodeByte op.size (capacity - m.state.pc.toNat)))
      rw [ofDecodeError_truncated short]
      rfl

theorem fetch_eq_error_iff {fault : Fault} :
    m.fetch = .error fault ↔
      ∃ e, Instruction.decode m.ahead = .error e ∧ fault = .ofDecodeError m.state.pc e := by
  rw [fetch_eq_decode]
  cases Instruction.decode m.ahead with
  | ok i =>
    constructor
    · intro h; cases h
    · rintro ⟨_, h, -⟩; cases h
  | error e =>
    constructor
    · intro h; cases h; exact ⟨e, rfl, rfl⟩
    · rintro ⟨_, h, rfl⟩; cases h; rfl

theorem fetch_eq_ok_iff {i : Instruction} :
    m.fetch = .ok i ↔ Instruction.decode m.ahead = .ok i := by
  rw [fetch_eq_decode]
  cases Instruction.decode m.ahead with
  | ok j =>
    constructor
    · intro h; cases h; rfl
    · intro h; cases h; rfl
  | error e =>
    constructor
    · intro h; cases h
    · intro h; cases h

/-- The instruction whose bytes stand at the program counter is fetched. -/
theorem fetch_of_encode {i : Instruction} {rest : List UInt8} (h : m.ahead = i.encode ++ rest) :
    m.fetch = .ok i := by
  rw [fetch_eq_ok_iff, h]
  exact i.decode_encode_append rest

/-! ## Steps -/

variable [Sink σ] {out : σ}

/-- A step that can fetch nothing changes the status alone. -/
theorem step_of_fetch_error {fault : Fault} (running : m.state.status = .running)
    (fetched : m.fetch = .error fault) :
    m.step out = ⟨m.record.fail fault, out, .error fault⟩ := by
  have fetched : m.record.fetch = .error fault := fetched
  simp only [step, running, cycle, fetched]

/-- A step whose instruction has a fault keeps what the instruction did. -/
theorem step_of_execute_fault {i : Instruction} {fault : Fault}
    (running : m.state.status = .running) (fetched : m.fetch = .ok i)
    (wrong : (i.execute m.state out).fault = some fault) :
    m.step out =
      ⟨{ m.record with state := (i.execute m.state out).state }.fail fault,
        (i.execute m.state out).sink, .error fault⟩ := by
  have fetched : m.record.fetch = .ok i := fetched
  simp only [step, running, cycle, fetched, state_record, wrong]

/-- A step whose instruction has no fault is counted. -/
theorem step_of_execute_ok {i : Instruction} (running : m.state.status = .running)
    (fetched : m.fetch = .ok i) (ok : (i.execute m.state out).fault = none) :
    m.step out =
      ⟨{ m.record with state := (i.execute m.state out).state.atCycle (m.state.cycles + 1) },
        (i.execute m.state out).sink, .ok (i.execute m.state out).state.status⟩ := by
  have fetched : m.record.fetch = .ok i := fetched
  simp only [step, running, cycle, fetched, state_record, ok, Instruction.cycles_execute]
  rfl

/-- What a step of a running machine can come to. -/
inductive StepEnd (m : Machine) (out : σ) : Prop
  /-- Nothing could be fetched. -/
  | unread (fault : Fault) (fetched : m.fetch = .error fault)
      (same : m.step out = ⟨m.record.fail fault, out, .error fault⟩)
  /-- The instruction had a fault, and what it did before stays done. -/
  | failed (i : Instruction) (fault : Fault) (fetched : m.fetch = .ok i)
      (wrong : (i.execute m.state out).fault = some fault)
      (same : m.step out =
        ⟨{ m.record with state := (i.execute m.state out).state }.fail fault,
          (i.execute m.state out).sink, .error fault⟩)
  /-- The instruction was executed and counted. -/
  | counted (i : Instruction) (fetched : m.fetch = .ok i)
      (ok : (i.execute m.state out).fault = none)
      (same : m.step out =
        ⟨{ m.record with
            state := (i.execute m.state out).state.atCycle (m.state.cycles + 1) },
          (i.execute m.state out).sink, .ok (i.execute m.state out).state.status⟩)

theorem stepEnd_of_running (running : m.state.status = .running) (out : σ) : StepEnd m out := by
  cases fetched : m.fetch with
  | error fault => exact .unread fault fetched (step_of_fetch_error running fetched)
  | ok i =>
    cases effect : (i.execute m.state out).fault with
    | some fault =>
      exact .failed i fault fetched effect (step_of_execute_fault running fetched effect)
    | none => exact .counted i fetched effect (step_of_execute_ok running fetched effect)

/-- Whether a step faults before it executes anything: the fault is that of the fetch. -/
def FaultsAtFetch (m : Machine) (out : σ) (fault : Fault) : Prop :=
  m.fetch = .error fault ∧ (m.step out).answer = .error fault

/-- A machine reads its memory the way bytes are decoded: for any memory and any program counter
fetching gives what decoding all bytes ahead gives. So a step of a running machine faults before it
executes anything just if these do not decode, and then only its status changes. -/
theorem machine_decodes_memory (m : Machine) (out : σ) :
    m.fetch = (Instruction.decode m.ahead).mapError (Fault.ofDecodeError m.state.pc) ∧
    (∀ size, Opcode.sizeAt m.opcodeByte = .ok size → capacity < m.state.pc.toNat + size →
      m.fetch = .error m.cutShort ∧ Instruction.decode m.ahead =
        .error (.truncated m.opcodeByte size (capacity - m.state.pc.toNat))) ∧
    (∀ opcode expected found,
      Instruction.decode m.ahead = .error (.truncated opcode expected found) →
        Fault.ofDecodeError m.state.pc (.truncated opcode expected found) = m.cutShort) ∧
    (m.state.status = .running →
      (∀ fault, m.FaultsAtFetch out fault ↔
        ∃ e, Instruction.decode m.ahead = .error e ∧ fault = .ofDecodeError m.state.pc e) ∧
      (∀ e, Instruction.decode m.ahead = .error e →
        (m.step out).answer = .error (.ofDecodeError m.state.pc e) ∧
        (m.step out).machine.state = { m.state with status := .faulted } ∧
        (m.step out).machine.config = m.config ∧ (m.step out).sink = out) ∧
      (∀ i, Instruction.decode m.ahead = .ok i →
        (m.step out).sink = (i.execute m.state out).sink ∧
        (m.step out).answer = match (i.execute m.state out).fault with
          | some fault => .error fault
          | none => .ok (i.execute m.state out).state.status)) := by
  refine ⟨m.fetch_eq_decode, ?_, fun _ _ _ => ofDecodeError_truncated, fun running => ⟨?_, ?_, ?_⟩⟩
  · intro size sized outside
    have short := decode_ahead_truncated_iff.mpr ⟨sized, outside⟩
    exact ⟨fetch_eq_error_iff.mpr ⟨_, short, (ofDecodeError_truncated short).symm⟩, short⟩
  · intro fault
    rw [← fetch_eq_error_iff]
    constructor
    · intro h
      exact h.1
    · intro h
      exact ⟨h, by rw [step_of_fetch_error running h]⟩
  · intro e h
    rw [step_of_fetch_error running (fetch_eq_error_iff.mpr ⟨e, h, rfl⟩)]
    exact ⟨rfl, rfl, rfl, rfl⟩
  · intro i h
    have fetched : m.fetch = .ok i := fetch_eq_ok_iff.mpr h
    cases effect : (i.execute m.state out).fault with
    | some fault =>
      rw [step_of_execute_fault running fetched effect]
      exact ⟨rfl, rfl⟩
    | none =>
      rw [step_of_execute_ok running fetched effect]
      exact ⟨rfl, rfl⟩

/-- A load in the last two bytes of the memory, and the program counter on it. -/
def loadAtEnd : Machine :=
  { initial {} with
    state := { State.initial defaultStackTop with
      pc := 254, memory := Memory.zero.write 254 0x82 } }

/-- The value to load would have the address 256. -/
theorem machine_decodes_memory_load_at_end :
    loadAtEnd.state.status = .running ∧
    Instruction.decode loadAtEnd.ahead = .error (.truncated 0x82 3 2) ∧
    (loadAtEnd.step Printed.empty).answer = .error (.addressOutOfRange ⟨254, 0x82⟩ 256) ∧
    (loadAtEnd.step Printed.empty).machine.state =
      { loadAtEnd.state with status := .faulted } := by
  have ahead : loadAtEnd.ahead = [0x82, 0x00] := by decide +kernel
  have short : Instruction.decode loadAtEnd.ahead = .error (.truncated 0x82 3 2) := by
    rw [ahead]
    rfl
  obtain ⟨-, -, -, steps⟩ := machine_decodes_memory loadAtEnd Printed.empty
  obtain ⟨answer, state, -, -⟩ := (steps rfl).2.1 _ short
  exact ⟨rfl, short, answer, state⟩

end Machine

end ByteMachine
