import ByteMachine.Proofs.Machine.Failure
import ByteMachine.Proofs.Machine.Journal
import ByteMachine.Proofs.Machine.Straight

/-
  What the memory holds after any number of steps. A step stores one value at one
  address or none at all: only a push and a call store, just below the old stack
  pointer, and they do so also where the step then fails at its end.

    1. `memory_step`: a step changes the memory by its store and by nothing else.
    2. `cell_of_stepped`: so a cell holds the last value stored at its address, and
       otherwise what it held before, by induction on the steps.
    3. `prefix_of_stepped`: code is intact as long as nothing was stored in it.
    4. `last_store_wins` puts this together, also for runs, which are steps.
-/

namespace ByteMachine

open Instruction (decode)

/-! ## Stores -/

/-- The bytes from the program counter to the end of the memory. -/
def State.ahead (s : State) : List UInt8 := s.memory.toList.drop s.pc.toNat

/-- Whether the step that begins in the state stores the value at the address: it is the address to
which a push or a call lowers the stack pointer. -/
inductive State.Stores (s : State) (a v : UInt8) : Prop
  /-- A register, as it is when the pointer was lowered. -/
  | push (rs : Register) (running : s.status = .running) (decoded : decode s.ahead = .ok (.push rs))
      (room : s.sp ≠ 0) (address : s.sp - 1 = a)
      (value : (Instruction.push rs).registerAfter s rs = v)
  /-- The address behind the call. -/
  | call (rs : Register) (running : s.status = .running) (decoded : decode s.ahead = .ok (.call rs))
      (room : s.sp ≠ 0) (inside : s.pc.toNat ≤ 253) (address : s.sp - 1 = a) (value : s.pc + 2 = v)

/-- The address and the value that the step beginning in the state stores, if it stores one. -/
def State.store? (s : State) : Option (UInt8 × UInt8) :=
  match s.status, decode s.ahead with
  | .running, .ok i => i.store? s
  | _, _ => none

namespace State

variable {s : State} {a v : UInt8}

theorem store?_of_stopped (stopped : s.status ≠ .running) : s.store? = none := by
  unfold store?
  split
  · next running _ => exact absurd running stopped
  · rfl

theorem store?_of_error {e : DecodeError} (wrong : decode s.ahead = .error e) : s.store? = none := by
  unfold store?
  rw [wrong]
  cases s.status <;> rfl

theorem store?_of_ok {i : Instruction} (running : s.status = .running)
    (decoded : decode s.ahead = .ok i) : s.store? = i.store? s := by
  unfold store?
  rw [running, decoded]

/-- A call stores something just if it has a cell for it and is not in the last two bytes. -/
theorem call_store?_eq_some_iff {rs : Register} : (Instruction.call rs).store? s = some (a, v) ↔
    s.sp ≠ 0 ∧ s.pc.toNat ≤ 253 ∧ s.sp - 1 = a ∧ s.pc + 2 = v := by
  rw [Instruction.store?, capacity]
  by_cases inside : s.pc.toNat + 2 < 256
  · by_cases bottom : s.sp = 0
    · simp [inside, bottom]
    · have early : s.pc.toNat ≤ 253 := by omega
      simp [inside, bottom, early]
  · have late : ¬ s.pc.toNat ≤ 253 := by omega
    simp [inside, late]

theorem push_store?_eq_some_iff {rs : Register} : (Instruction.push rs).store? s = some (a, v) ↔
    s.sp ≠ 0 ∧ s.sp - 1 = a ∧ (Instruction.push rs).registerAfter s rs = v := by
  rw [Instruction.store?, Instruction.get_lowered s rs]
  by_cases bottom : s.sp = 0
  · simp [bottom]
  · simp [bottom]

theorem store?_eq_some_iff : s.store? = some (a, v) ↔ s.Stores a v := by
  constructor
  · intro stored
    by_cases running : s.status = .running
    · cases decoded : decode s.ahead with
      | error e =>
        rw [store?_of_error decoded] at stored
        cases stored
      | ok i =>
        rw [store?_of_ok running decoded] at stored
        cases i with
        | push rs =>
          obtain ⟨room, address, value⟩ := push_store?_eq_some_iff.mp stored
          exact .push rs running decoded room address value
        | call rs =>
          obtain ⟨room, inside, address, value⟩ := call_store?_eq_some_iff.mp stored
          exact .call rs running decoded room inside address value
        | hlt | ldi rd imm | prn rs | alu op ra rb | pop rd | ret => cases stored
    · rw [store?_of_stopped running] at stored
      cases stored
  · intro stores
    cases stores with
    | push rs running decoded room address value =>
      rw [store?_of_ok running decoded]
      exact push_store?_eq_some_iff.mpr ⟨room, address, value⟩
    | call rs running decoded room inside address value =>
      rw [store?_of_ok running decoded]
      exact call_store?_eq_some_iff.mpr ⟨room, inside, address, value⟩

theorem Stores.running (stores : s.Stores a v) : s.status = .running := by
  cases stores with
  | push rs running | call rs running => exact running

/-- A step stores one value. -/
theorem Stores.value_unique {w : UInt8} (stores : s.Stores a v) (stores' : s.Stores a w) : v = w := by
  have first := store?_eq_some_iff.mpr stores
  rw [store?_eq_some_iff.mpr stores'] at first
  cases first
  rfl

end State

namespace Machine

/-! ## Single steps -/

section Steps
variable {σ : Type} [Sink σ] {m : Machine} {a v : UInt8}

/-- A step changes the memory by its store and by nothing else, whatever it answers. -/
theorem memory_step (m : Machine) (out : σ) :
    (m.step out).machine.state.memory = m.state.memory.stored m.state.store? := by
  by_cases running : m.state.status = .running
  · cases stepEnd_of_running running out with
    | unread fault fetched same =>
      obtain ⟨e, wrong, -⟩ := fetch_eq_error_iff.mp fetched
      rw [same, State.store?_of_error wrong]
      rfl
    | failed i fault fetched wrong same =>
      rw [same, State.store?_of_ok running (fetch_eq_ok_iff.mp fetched)]
      exact Instruction.memory_execute i m.state out
    | counted i fetched ok same =>
      rw [same, State.store?_of_ok running (fetch_eq_ok_iff.mp fetched)]
      exact Instruction.memory_execute i m.state out
  · rw [(step_of_stopped running out).1, State.store?_of_stopped running]
    rfl

/-- So at most one cell changes. -/
theorem exists_cell_of_step (m : Machine) (out : σ) : ∃ a, ∀ b, b ≠ a →
    (m.step out).machine.state.memory.read b = m.state.memory.read b := by
  rw [memory_step]
  cases stored : m.state.store? with
  | none => exact ⟨0, fun _ _ => rfl⟩
  | some store => exact ⟨store.1, fun b other => Memory.read_write_ne _ _ (Ne.symm other)⟩

/-- A cell at which a step does not store keeps its value. -/
theorem read_step_of_not {out : σ} (other : ∀ v, ¬ m.state.Stores a v) :
    (m.step out).machine.state.memory.read a = m.state.memory.read a := by
  rw [memory_step]
  apply Memory.read_stored_of_ne
  intro at_a
  obtain ⟨store, stored, rfl⟩ := Option.map_eq_some_iff.mp at_a
  exact other store.2 (State.store?_eq_some_iff.mp stored)

/-- Also where the step fails, the registers are those that the instruction leaves. -/
theorem registers_step {i : Instruction} {out : σ} (running : m.state.status = .running)
    (decoded : decode m.ahead = .ok i) :
    (m.step out).machine.state.registers = (i.execute m.state out).state.registers := by
  have fetched := fetch_eq_ok_iff.mpr decoded
  cases wrong : (i.execute m.state out).fault with
  | some fault =>
    rw [step_of_execute_fault running fetched wrong]
    rfl
  | none =>
    rw [step_of_execute_ok running fetched wrong]
    rfl

/-- A store leaves its value in its cell and the stack pointer on it, whether or not the step fails
at its end. -/
theorem step_of_stores (stores : m.state.Stores a v) (out : σ) :
    (m.step out).machine.state.memory.read a = v ∧ (m.step out).machine.state.sp = a := by
  refine ⟨?_, ?_⟩
  · rw [memory_step, State.store?_eq_some_iff.mpr stores]
    exact Memory.read_write_self ..
  · rw [State.sp, State.get]
    cases stores with
    | push rs running decoded room address value =>
      rw [registers_step running decoded, execute_push_of_ne rs room, Instruction.registers_advance]
      exact (m.state.sp_pushed _).trans address
    | call rs running decoded room inside address value =>
      have inside : m.state.pc.toNat + 2 < capacity := by
        rw [capacity]
        omega
      rw [registers_step running decoded, execute_call_of_ne rs inside room]
      exact (m.state.sp_pushed (m.state.pc + 2)).trans address

/-- A push whose next instruction would lie outside the memory fails, and has stored its value. -/
theorem stores_of_push_outside {rs : Register} (running : m.state.status = .running)
    (decoded : decode m.ahead = .ok (.push rs)) (room : m.state.sp ≠ 0) (late : m.state.pc = 254)
    (out : σ) :
    (m.step out).answer = .error (m.outOfRange 256) ∧
      m.state.Stores (m.state.sp - 1) ((Instruction.push rs).registerAfter m.state rs) := by
  refine ⟨?_, .push rs running decoded room rfl rfl⟩
  have outside : 255 < m.state.pc.toNat + (Instruction.push rs).size := by
    rw [late, size_push]
    decide
  have works : (Instruction.push rs).Works m.state out := room
  obtain ⟨t, -, work⟩ := Instruction.exists_work works
  rw [step_of_failure running (.outside decoded room outside work)]

end Steps

/-! ## Any number of steps -/

/-- Steps of a machine, each with a sink of its own and whatever it answers. The list has the states
in which they began, that of the last step first. -/
inductive Stepped (m : Machine) : List State → Machine → Prop
  | none : Stepped m [] m
  | step {began : List State} {last : Machine} {σ : Type} [Sink σ] (out : σ)
      (steps : Stepped m began last) : Stepped m (last.state :: began) (last.step out).machine

/-- Whether no step that began in these states stored anything at the address. -/
def Unstored (began : List State) (a : UInt8) : Prop := ∀ s ∈ began, ∀ v, ¬ s.Stores a v

/-- Whether the value is that of the last store at the address. -/
inductive LastStored : List State → UInt8 → UInt8 → Prop
  | here {s : State} {began : List State} {a v : UInt8} (stores : s.Stores a v) :
      LastStored (s :: began) a v
  | before {s : State} {began : List State} {a v : UInt8} (other : ∀ w, ¬ s.Stores a w)
      (stored : LastStored began a v) : LastStored (s :: began) a v

variable {m last : Machine} {began : List State} {a v : UInt8}

/-- There is one last value. -/
theorem LastStored.unique {w : UInt8} (h : LastStored began a v) (h' : LastStored began a w) :
    v = w := by
  induction h with
  | here stores =>
    cases h' with
    | here stores' => exact stores.value_unique stores'
    | before other stored => exact absurd stores (other _)
  | before other stored ih =>
    cases h' with
    | here stores' => exact absurd stores' (other _)
    | before other' stored' => exact ih stored'

/-- A cell holds the last value stored at its address, and otherwise what it held before. -/
theorem cell_of_stepped (steps : m.Stepped began last) (a : UInt8) :
    LastStored began a (last.state.memory.read a) ∨
      Unstored began a ∧ last.state.memory.read a = m.state.memory.read a := by
  induction steps with
  | none => exact .inr ⟨nofun, rfl⟩
  | @step began last σ _ out steps ih =>
    by_cases stored : ∃ v, last.state.Stores a v
    · obtain ⟨v, stores⟩ := stored
      rw [(step_of_stores stores out).1]
      exact .inl (.here stores)
    · have other : ∀ v, ¬ last.state.Stores a v := fun v stores => stored ⟨v, stores⟩
      rw [read_step_of_not other]
      obtain before | ⟨unstored, same⟩ := ih
      · exact .inl (.before other before)
      · exact .inr ⟨List.forall_mem_cons.mpr ⟨other, unstored⟩, same⟩

/-- Code is intact as long as nothing was stored in it. -/
theorem prefix_of_stepped (steps : m.Stepped began last) {code : List UInt8}
    (loaded : code <+: m.state.memory.toList)
    (above : ∀ s ∈ began, ∀ a v, s.Stores a v → code.length ≤ a.toNat) :
    code <+: last.state.memory.toList := by
  induction steps with
  | none => exact loaded
  | @step began last σ _ out steps ih =>
    rw [List.forall_mem_cons] at above
    have before := ih above.2
    rw [memory_step]
    cases stored : last.state.store? with
    | none => exact before
    | some store =>
      have stores : last.state.Stores store.1 store.2 := State.store?_eq_some_iff.mp stored
      exact prefix_write before (above.1 store.1 store.2 stores)

/-- An image that was loaded stands at the front of the memory. -/
theorem prefix_of_load {before : Machine} {image : Image} (loaded : before.load image = .ok m) :
    image.bytes <+: m.state.memory.toList := by
  unfold load Memory.load at loaded
  by_cases fits : image.size ≤ capacity
  · rw [if_pos fits] at loaded
    cases loaded
    exact prefix_overlay before.state.memory fits
  · rw [if_neg fits] at loaded
    cases loaded

/-! ## Runs -/

section Runs
variable {σ : Type} [Sink σ]

/-- The machine after any number of steps with one sink. -/
theorem stepped_after (m : Machine) (out : σ) (k : Nat) :
    ∃ began, m.Stepped began (m.after k out).1 ∧
      ∀ s ∈ began, ∃ j < k, s = (m.after j out).1.state := by
  induction k with
  | zero => exact ⟨[], .none, nofun⟩
  | succ k ih =>
    obtain ⟨began, steps, members⟩ := ih
    rw [after_add, after_succ]
    refine ⟨_, steps.step (m.after k out).2, List.forall_mem_cons.mpr ⟨⟨k, by omega, rfl⟩, ?_⟩⟩
    intro s mem
    obtain ⟨j, less, same⟩ := members s mem
    exact ⟨j, by omega, same⟩

/-- A state from which a running machine takes one of the steps is one in which a cycle begins. -/
theorem mem_inSteps {m : Machine} {out : σ} {j k : Nat} (less : j < k)
    (running : (m.after j out).1.state.status = .running) :
    (m.after j out).1.state ∈ (attempts (m.inSteps k out)).map (·.state) := by
  induction k generalizing m out j with
  | zero => omega
  | succ k ih =>
    by_cases first : m.state.status = .running
    · rw [inSteps, if_pos first, attempts_append, List.map_append, List.mem_append]
      cases j with
      | zero => exact .inl (List.mem_singleton.mpr rfl)
      | succ j => exact .inr (ih (Nat.lt_of_succ_lt_succ less) running)
    · rw [after_of_stopped first] at running
      exact absurd running first

theorem memory_settled (m : Machine) : m.settled.state.memory = m.state.memory := by
  unfold settled
  split <;> rfl

/-- Code is intact at the end of a run in which nothing was stored in it. -/
theorem prefix_of_run {code : List UInt8} (loaded : code <+: m.state.memory.toList) (out : σ)
    (above : ∀ s ∈ m.begun out, ∀ a v, s.Stores a v → code.length ≤ a.toNat) :
    code <+: (m.run out).machine.state.memory.toList := by
  obtain ⟨began, steps, members⟩ := stepped_after m out m.room
  rw [(settled_after_of_run m out).1, memory_settled]
  refine prefix_of_stepped steps loaded ?_
  intro s mem a v stores
  obtain ⟨j, less, rfl⟩ := members s mem
  apply above _ _ a v stores
  rw [begun_eq_inSteps]
  exact mem_inSteps less stores.running

end Runs

/-! ## The law -/

/-- What one step does to the memory, whatever it answers. -/
structure OneStore {σ : Type} [Sink σ] (m : Machine) (out : σ) : Prop where
  /-- At most one cell changes. -/
  cell : ∃ a, ∀ b, b ≠ a → (m.step out).machine.state.memory.read b = m.state.memory.read b
  /-- A store leaves its value in its cell and the stack pointer on it. -/
  stored : ∀ a v, m.state.Stores a v →
    (m.step out).machine.state.memory.read a = v ∧ (m.step out).machine.state.sp = a
  /-- A push whose next instruction would lie outside the memory fails and is a store. -/
  outside : ∀ rs, m.state.status = .running → decode m.ahead = .ok (.push rs) → m.state.sp ≠ 0 →
    m.state.pc = 254 → (m.step out).answer = .error (m.outOfRange 256) ∧
      m.state.Stores (m.state.sp - 1) ((Instruction.push rs).registerAfter m.state rs)

/-- After any number of steps with any sinks, faulting ones included, each cell holds the value of
the last store at its address, or what it held before if there was none. An image keeps its bytes as
long as every store is behind them, in steps and in a run. -/
theorem last_store_wins (steps : m.Stepped began last) :
    (∀ a, LastStored began a (last.state.memory.read a) ∨
      Unstored began a ∧ last.state.memory.read a = m.state.memory.read a) ∧
    (∀ {σ : Type} [Sink σ] (n : Machine) (out : σ), OneStore n out) ∧
    (∀ (before : Machine) (image : Image), before.load image = .ok m →
      ((∀ s ∈ began, ∀ a v, s.Stores a v → image.size ≤ a.toNat) →
        image.bytes <+: last.state.memory.toList) ∧
      (∀ {σ : Type} [Sink σ] (out : σ),
        (∀ s ∈ m.begun out, ∀ a v, s.Stores a v → image.size ≤ a.toNat) →
          image.bytes <+: (m.run out).machine.state.memory.toList)) := by
  refine ⟨cell_of_stepped steps, ?_, ?_⟩
  · intro σ _ n out
    exact ⟨exists_cell_of_step n out, fun a v stores => step_of_stores stores out,
      fun rs running decoded room late => stores_of_push_outside running decoded room late out⟩
  · intro before image loaded
    have front := prefix_of_load loaded
    exact ⟨prefix_of_stepped steps front, fun out => prefix_of_run front out⟩

/-- A push of R7 in the last two bytes of the memory. -/
def pushAtEnd : Machine :=
  { initial {} with
    state := { State.initial defaultStackTop with
      pc := 254, memory := (Memory.zero.write 254 0x45).write 255 Register.sp.byte } }

/-- Its first step faults and stores the lowered pointer, and a second step stores nothing. -/
theorem last_store_wins_push_at_end :
    let failed := (pushAtEnd.step (LineBuffer.empty 0)).machine
    pushAtEnd.Stepped [failed.state, pushAtEnd.state] (failed.step Printed.empty).machine ∧
    (pushAtEnd.step (LineBuffer.empty 0)).answer = .error (pushAtEnd.outOfRange 256) ∧
    LastStored [failed.state, pushAtEnd.state] 0xF3 0xF3 ∧
    (failed.step Printed.empty).machine.state.memory.read 0xF3 = 0xF3 := by
  intro failed
  have steps : pushAtEnd.Stepped [failed.state, pushAtEnd.state] (failed.step Printed.empty).machine :=
    (Stepped.none.step (LineBuffer.empty 0)).step Printed.empty
  have decoded : decode pushAtEnd.ahead = .ok (.push .sp) := by
    have ahead : pushAtEnd.ahead = [0x45, 0x07] := by decide +kernel
    rw [ahead]
    rfl
  obtain ⟨cell, one, -⟩ := last_store_wins steps
  obtain ⟨answer, stores⟩ :=
    (one pushAtEnd (LineBuffer.empty 0)).outside .sp rfl decoded (by decide +kernel) rfl
  have stopped : failed.state.status = .faulted := (faulted_of_step rfl answer).1
  have idle : ∀ a v, ¬ failed.state.Stores a v := by
    intro a v stores
    have running := stores.running
    rw [stopped] at running
    cases running
  have stored : LastStored [failed.state, pushAtEnd.state] 0xF3 0xF3 := .before (idle 0xF3) (.here stores)
  refine ⟨steps, answer, stored, ?_⟩
  obtain held | ⟨unstored, -⟩ := cell 0xF3
  · exact held.unique stored
  · exact absurd stores (unstored _ (by simp) 0xF3)

end Machine

end ByteMachine
