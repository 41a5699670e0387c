import ByteMachine.Proofs.Machine.Footprint
import ByteMachine.Proofs.Machine.Steps

/-
  Cells that a run does not read have no part in it. A cycle reads the bytes of the
  instruction that it fetches, and a pop or a return reads the top of the stack. Two
  machines that differ only in other cells are compared cycle by cycle:

    1. `fetch_of_agreeOn`: they fetch the same. No byte behind the instruction is read,
       and of a byte that is no opcode, or of an instruction that the end of the memory
       cuts short, only the first.
    2. `AgreeOn.step`: so the cycle does the same to both, and the cell that it writes
       is from now on the same in both.
    3. `AgreeOn.run`: so do their runs, also when a run writes the program it executes,
       and however it ends.
    4. `unread_cell_is_free` states this for a single cell that was never read before it
       was written.
-/

namespace ByteMachine

variable {σ : Type}

namespace Memory

theorem get?_congr {μ ν : Memory} {index : Nat}
    (same : ∀ a : UInt8, a.toNat = index → μ.read a = ν.read a) : μ.get? index = ν.get? index := by
  by_cases inside : index < capacity
  · have number : (UInt8.ofNat index).toNat = index := UInt8.toNat_ofNat_of_lt' inside
    rw [← number, get?_eq_read, get?_eq_read, same _ number]
  · have outside := Nat.le_of_not_lt inside
    rw [get?_eq_none_iff.mpr outside, get?_eq_none_iff.mpr outside]

theorem slice_congr {μ ν : Memory} {start count : Nat}
    (same : ∀ a : UInt8, start ≤ a.toNat → a.toNat < start + count → μ.read a = ν.read a) :
    μ.slice start count = ν.slice start count := by
  induction count generalizing start with
  | zero => rfl
  | succ count ih =>
    have front : μ.get? start = ν.get? start := by
      apply get?_congr
      intro a number
      exact same a (by omega) (by omega)
    rw [slice_succ, slice_succ, front, ih fun a low high => same a (by omega) (by omega)]

end Memory

/-! ## States that differ in their memory -/

/-- The states differ at most in memory cells outside `P`. -/
structure State.AgreeOn (P : UInt8 → Prop) (s t : State) : Prop where
  rest : t = s.withMemory t.memory
  cells : ∀ a, P a → t.memory.read a = s.memory.read a

namespace State.AgreeOn

variable {P Q : UInt8 → Prop} {s t : State}

theorem mono (agree : s.AgreeOn P t) (fewer : ∀ a, Q a → P a) : s.AgreeOn Q t :=
  ⟨agree.rest, fun a inside => agree.cells a (fewer a inside)⟩

theorem pc (agree : s.AgreeOn P t) : t.pc = s.pc := by rw [agree.rest]; rfl

theorem status (agree : s.AgreeOn P t) : t.status = s.status := by rw [agree.rest]; rfl

theorem cycles (agree : s.AgreeOn P t) : t.cycles = s.cycles := by rw [agree.rest]; rfl

theorem withStatus (agree : s.AgreeOn P t) (status : Status) :
    State.AgreeOn P { s with status := status } { t with status := status } :=
  ⟨congrArg (fun u : State => { u with status := status }) agree.rest, agree.cells⟩

theorem atCycle (agree : s.AgreeOn P t) (n : UInt64) : (s.atCycle n).AgreeOn P (t.atCycle n) :=
  ⟨congrArg (·.atCycle n) agree.rest, agree.cells⟩

/-- An instruction that reads no other cell does the same to both. -/
theorem execute [Sink σ] {i : Instruction} (agree : s.AgreeOn P t)
    (loads : ∀ a, i.load? s = some a → P a) (out : σ) :
    (i.execute t out).fault = (i.execute s out).fault ∧
    (i.execute t out).sink = (i.execute s out).sink ∧
    (i.execute s out).state.AgreeOn (fun a => P a ∨ (i.store? s).map Prod.fst = some a)
      (i.execute t out).state := by
  have same := Instruction.execute_withMemory out fun a load => agree.cells a (loads a load)
  rw [← agree.rest] at same
  rw [same]
  refine ⟨rfl, rfl, rfl, ?_⟩
  intro a inside
  rw [Instruction.memory_execute]
  apply Memory.read_stored
  exact inside.imp_left (agree.cells a)

end State.AgreeOn

namespace Machine

/-! ## What a cycle reads and writes -/

/-- The number of bytes that the next cycle fetches. Nothing is read behind a byte that is no
opcode, nor when the instruction does not fit in front of the end of the memory. -/
def fetchSize (m : Machine) : Nat :=
  match Opcode.sizeAt m.opcodeByte with
  | .ok size => if m.state.pc.toNat + size ≤ capacity then size else 1
  | .error _ => 1

/-- Whether the next cycle fetches a byte from the cell. -/
def Fetches (m : Machine) (a : UInt8) : Prop :=
  m.state.pc.toNat ≤ a.toNat ∧ a.toNat < m.state.pc.toNat + m.fetchSize

/-- The cell from which the instruction of the next cycle takes a value: the top of the stack, for
a pop or a return. -/
def loadedCell? (m : Machine) : Option UInt8 :=
  match m.fetch with
  | .ok i => i.load? m.state
  | .error _ => none

/-- The cell into which it puts a value, as a push or a call does. -/
def storedCell? (m : Machine) : Option UInt8 :=
  match m.fetch with
  | .ok i => (i.store? m.state).map Prod.fst
  | .error _ => none

/-- Whether the next cycle reads the cell. -/
def Reads (m : Machine) (a : UInt8) : Prop := m.Fetches a ∨ m.loadedCell? = some a

/-- Whether the next cycle writes the cell. -/
def Writes (m : Machine) (a : UInt8) : Prop := m.storedCell? = some a

instance (m : Machine) (a : UInt8) : Decidable (m.Reads a) :=
  inferInstanceAs (Decidable ((_ ∧ _) ∨ _))

instance (m : Machine) (a : UInt8) : Decidable (m.Writes a) :=
  inferInstanceAs (Decidable (_ = _))

theorem fetchSize_pos (m : Machine) : 0 < m.fetchSize := by
  unfold fetchSize
  split
  · next size sized =>
    obtain ⟨op, -, rfl⟩ := Opcode.sizeAt_eq_ok_iff.mp sized
    split
    · exact op.size_pos
    · exact Nat.one_pos
  · exact Nat.one_pos

theorem fetches_pc (m : Machine) : m.Fetches m.state.pc :=
  ⟨Nat.le_refl _, Nat.lt_add_of_pos_right m.fetchSize_pos⟩

/-! ## Machines that differ in their memory -/

/-- The machines have the same settings, and their states differ at most in memory cells outside
`P`. Their records do not count. -/
structure AgreeOn (P : UInt8 → Prop) (m n : Machine) : Prop where
  config : n.config = m.config
  state : m.state.AgreeOn P n.state

/-- The same answer and the same sink, with machines that agree. -/
structure SameEnd {α : Type} (P : UInt8 → Prop) (first second : Outcome σ α) : Prop where
  answer : second.answer = first.answer
  sink : second.sink = first.sink
  machine : first.machine.AgreeOn P second.machine

variable {P Q : UInt8 → Prop} {m n : Machine}

theorem SameEnd.mono {α : Type} {first second : Outcome σ α} (same : SameEnd P first second)
    (fewer : ∀ a, Q a → P a) : SameEnd Q first second :=
  ⟨same.answer, same.sink, same.machine.config, same.machine.state.mono fewer⟩

theorem fetch_of_agreeOn (agree : m.AgreeOn P n) (reads : ∀ a, m.Fetches a → P a) :
    n.fetch = m.fetch := by
  have cells : ∀ a, m.Fetches a → n.state.memory.read a = m.state.memory.read a :=
    fun a fetches => agree.state.cells a (reads a fetches)
  have byte : n.state.memory.read m.state.pc = m.opcodeByte := cells _ m.fetches_pc
  have byte' : m.state.memory.read m.state.pc = m.opcodeByte := rfl
  simp only [fetch, agree.state.pc, byte, byte']
  cases sized : Opcode.sizeAt m.opcodeByte with
  | error e => rfl
  | ok size =>
    dsimp only
    by_cases inside : m.state.pc.toNat + size ≤ capacity
    · have all : m.fetchSize = size := by simp only [fetchSize, sized, if_pos inside]
      have slice : n.state.memory.slice m.state.pc.toNat size =
          m.state.memory.slice m.state.pc.toNat size := by
        apply Memory.slice_congr
        intro a low high
        exact cells a ⟨low, by rw [all]; exact high⟩
      rw [slice]
    · rw [if_neg inside, if_neg inside]

variable [Sink σ] {out : σ}

/-- A cycle that reads no other cell does the same to both, and then they agree on what it wrote
as well. -/
theorem AgreeOn.step (agree : m.AgreeOn P n) (running : m.state.status = .running)
    (reads : ∀ a, m.Reads a → P a) (out : σ) :
    SameEnd (fun a => P a ∨ m.Writes a) (m.step out) (n.step out) := by
  have running' : n.state.status = .running := agree.state.status.trans running
  have fetch := fetch_of_agreeOn agree fun a fetches => reads a (.inl fetches)
  have executed : ∀ {i : Instruction}, m.fetch = .ok i →
      (i.execute n.state out).fault = (i.execute m.state out).fault ∧
      (i.execute n.state out).sink = (i.execute m.state out).sink ∧
      (i.execute m.state out).state.AgreeOn (fun a => P a ∨ m.Writes a)
        (i.execute n.state out).state := by
    intro i fetched
    have loaded : m.loadedCell? = i.load? m.state := by simp only [loadedCell?, fetched]
    have stored : m.storedCell? = (i.store? m.state).map Prod.fst := by
      simp only [storedCell?, fetched]
    simp only [Writes, stored]
    exact agree.state.execute (fun a load => reads a (.inr (loaded.trans load))) out
  cases stepEnd_of_running running out with
  | unread fault fetched same =>
    -- Nothing is executed, so the cells on which they agree are those from before.
    have stored : m.storedCell? = none := by simp only [storedCell?, fetched]
    rw [same, step_of_fetch_error running' (fetch.trans fetched)]
    refine ⟨rfl, rfl, agree.config, (agree.state.withStatus .faulted).mono ?_⟩
    intro a inside
    apply inside.resolve_right
    rw [Writes, stored]
    exact nofun
  | failed i fault fetched wrong same =>
    obtain ⟨fault', sink, state⟩ := executed fetched
    rw [same, step_of_execute_fault running' (fetch.trans fetched) (fault'.trans wrong)]
    exact ⟨rfl, sink, agree.config, state.withStatus .faulted⟩
  | counted i fetched ok same =>
    obtain ⟨fault', sink, state⟩ := executed fetched
    rw [same, step_of_execute_ok running' (fetch.trans fetched) (fault'.trans ok),
      agree.state.cycles, state.status]
    exact ⟨rfl, sink, agree.config, state.atCycle _⟩

/-! ## Runs -/

/-- Whether the cycle of the given number, counted from 0, begins in the run. -/
def Begins (m : Machine) (out : σ) (k : Nat) : Prop :=
  k < m.room ∧ (m.after k out).1.state.status = .running

/-- No cycle of the run reads a cell outside `P`, unless an earlier one wrote it. -/
def ReadsWithin (P : UInt8 → Prop) (m : Machine) (out : σ) : Prop :=
  ∀ k, m.Begins out k → ∀ a, (m.after k out).1.Reads a →
    P a ∨ ∃ j < k, (m.after j out).1.Writes a

/-- Nothing is written before the first cycle. -/
theorem ReadsWithin.first (within : ReadsWithin P m out) (running : m.state.status = .running)
    (some : 0 < m.room) : ∀ a, m.Reads a → P a := by
  intro a reads
  obtain inside | ⟨j, earlier, -⟩ := within 0 ⟨some, running⟩ a reads
  · exact inside
  · exact absurd earlier (Nat.not_lt_zero j)

/-- What the first cycle wrote may be read by the others. -/
theorem ReadsWithin.step {status : Status} (within : ReadsWithin P m out)
    (running : m.state.status = .running) (some : 0 < m.room)
    (stepped : (m.step out).answer = .ok status) :
    ReadsWithin (fun a => P a ∨ m.Writes a) (m.step out).machine (m.step out).sink := by
  have room := (room_of_step running some stepped).2
  intro k begins a reads
  have begins' : m.Begins out (k + 1) := ⟨by rw [room]; exact Nat.succ_lt_succ begins.1, begins.2⟩
  obtain inside | ⟨j, earlier, writes⟩ := within (k + 1) begins' a reads
  · exact .inl (.inl inside)
  · cases j with
    | zero => exact .inl (.inr writes)
    | succ j => exact .inr ⟨j, Nat.lt_of_succ_lt_succ earlier, writes⟩

/-- Runs that read only cells on which the machines agree come to the same. -/
theorem AgreeOn.run (agree : m.AgreeOn P n) (within : ReadsWithin P m out) :
    SameEnd P (m.run out) (n.run out) := by
  -- From cycle to cycle the set grows by the cell that the cycle wrote, and the runs are compared
  -- on the first set.
  fun_induction Machine.run m out generalizing P n
  case case1 m out running below next fault stepped =>
    have same := agree.step running (within.first running (room_pos below)) out
    rw [run_of_step_error (agree.state.status.trans running)
      (by rw [agree.state.cycles, agree.config]; exact below) (same.answer.trans stepped)]
    exact ⟨rfl, same.sink, (same.mono fun a inside => .inl inside).machine⟩
  case case2 m out running below next status stepped ih =>
    have same := agree.step running (within.first running (room_pos below)) out
    rw [run_of_step_ok (agree.state.status.trans running)
      (by rw [agree.state.cycles, agree.config]; exact below) (same.answer.trans stepped), same.sink]
    exact (ih same.machine (within.step running (room_pos below) stepped)).mono fun a inside => .inl inside
  case case3 m out running reached =>
    rw [run_of_overdue (agree.state.status.trans running)
      (by rw [agree.state.cycles, agree.config]; exact UInt64.not_lt.mp reached)]
    exact ⟨rfl, rfl, agree.config, agree.state.withStatus _⟩
  case case4 m out reason stopped =>
    rw [run_of_halted (agree.state.status.trans stopped)]
    exact ⟨rfl, rfl, agree.config, agree.state⟩
  case case5 m out stopped =>
    rw [run_of_faulted (agree.state.status.trans stopped)]
    exact ⟨rfl, rfl, agree⟩

/-- A cell that no cycle of the run reads, unless an earlier one wrote it, may hold any value: the
run ends with the same answer, the same values in the sink and the same state, but for the value of
this cell. -/
theorem unread_cell_is_free {μ : Memory} {a : UInt8} (m : Machine) (out : σ)
    (others : ∀ b, b ≠ a → μ.read b = m.state.memory.read b)
    (unread : ∀ k, m.Begins out k → (m.after k out).1.Reads a →
      ∃ j < k, (m.after j out).1.Writes a) :
    let first := m.run out
    let second := { m with state := m.state.withMemory μ }.run out
    second.answer = first.answer ∧ second.sink = first.sink ∧
    second.machine.state = first.machine.state.withMemory second.machine.state.memory ∧
    ∀ b, b ≠ a → second.machine.state.memory.read b = first.machine.state.memory.read b := by
  intro first second
  have agree : m.AgreeOn (· ≠ a) { m with state := m.state.withMemory μ } := ⟨rfl, rfl, others⟩
  have within : ReadsWithin (· ≠ a) m out := by
    intro k begins b reads
    by_cases cell : b = a
    · rw [cell] at reads ⊢
      exact .inr (unread k begins reads)
    · exact .inl cell
  have same : SameEnd (· ≠ a) first second := agree.run within
  exact ⟨same.answer, same.sink, same.machine.state.rest, same.machine.state.cells⟩

/-- A program that puts R0 on the stack, takes it into R1 and halts. -/
def pushAndPop : Machine :=
  { initial {} with
    state := { State.initial defaultStackTop with
      memory := Memory.zero.overlay [0x45, 0x00, 0x46, 0x01, 0x01] } }

/-- The second cycle reads the cell below the top of the stack, but the first has written it. -/
theorem unread_cell_is_free_push_and_pop :
    let μ := pushAndPop.state.memory.write 0xF3 0x77
    let first := pushAndPop.run Printed.empty
    let second := { pushAndPop with state := pushAndPop.state.withMemory μ }.run Printed.empty
    pushAndPop.Begins Printed.empty 1 ∧ (pushAndPop.after 1 Printed.empty).1.Reads 0xF3 ∧
    second.answer = first.answer ∧
    second.machine.state = first.machine.state.withMemory second.machine.state.memory := by
  intro μ first second
  have others : ∀ b, b ≠ 0xF3 → μ.read b = pushAndPop.state.memory.read b :=
    fun b other => pushAndPop.state.memory.read_write_ne _ (Ne.symm other)
  have unread : ∀ k, pushAndPop.Begins Printed.empty k →
      (pushAndPop.after k Printed.empty).1.Reads 0xF3 →
      ∃ j < k, (pushAndPop.after j Printed.empty).1.Writes 0xF3 := by
    intro k begins reads
    have push : (pushAndPop.after 0 Printed.empty).1.Writes 0xF3 := by decide +kernel
    cases k with
    | zero => exact absurd reads (by decide +kernel)
    | succ k => exact ⟨0, Nat.succ_pos k, push⟩
  obtain ⟨answer, -, state, -⟩ := unread_cell_is_free pushAndPop Printed.empty others unread
  have begins : pushAndPop.Begins Printed.empty 1 :=
    ⟨by decide +kernel, by decide +kernel⟩
  exact ⟨begins, by decide +kernel, answer, state⟩

end Machine

end ByteMachine
