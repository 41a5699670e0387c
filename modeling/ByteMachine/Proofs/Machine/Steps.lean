import ByteMachine.Proofs.Machine.Path

/-
  Single steps beside runs. A machine can be stepped from outside any number of
  times, also when it has stopped. What is proved of it:

    1. `path_after`: where the machine still runs after its steps, these were a path.
    2. `run_after` and `run_of_faultsAt`: below the limit a run does not notice the
       steps taken before it, unless one of them faulted, and then it is that fault
       which ends the run without them.
    3. `settled_after_of_run`: so a run is as many single steps as the limit has room
       for, and then a stop.
    4. `steps_then_run` puts this together for any number of steps below the limit.
-/

namespace ByteMachine

namespace Machine

variable {σ : Type} [Sink σ] {m : Machine} {out : σ}

/-! ## Steps of a stopped machine -/

theorem step_of_halted {reason : HaltReason} (halted : m.state.status = .halted reason) :
    m.step out = ⟨m, out, .ok (.halted reason)⟩ := by
  simp only [step, halted]

theorem step_of_faulted (faulted : m.state.status = .faulted) :
    m.step out = ⟨m, out, .error .alreadyFaulted⟩ := by
  simp only [step, faulted]

theorem step_of_stopped (stopped : m.state.status ≠ .running) (out : σ) :
    (m.step out).machine = m ∧ (m.step out).sink = out := by
  cases status : m.state.status with
  | running => exact absurd status stopped
  | halted reason =>
    rw [step_of_halted status]
    exact ⟨rfl, rfl⟩
  | faulted =>
    rw [step_of_faulted status]
    exact ⟨rfl, rfl⟩

/-! ## Any number of steps -/

/-- The machine and the sink after a number of steps, whatever these answer. -/
def after : Nat → Machine → σ → Machine × σ
  | 0, m, out => (m, out)
  | k + 1, m, out => after k (m.step out).machine (m.step out).sink

@[simp] theorem after_zero (m : Machine) (out : σ) : m.after 0 out = (m, out) := rfl

theorem after_succ (m : Machine) (out : σ) (k : Nat) :
    m.after (k + 1) out = (m.step out).machine.after k (m.step out).sink := rfl

theorem after_add (m : Machine) (out : σ) (j k : Nat) :
    m.after (j + k) out = (m.after j out).1.after k (m.after j out).2 := by
  induction j generalizing m out with
  | zero => rw [Nat.zero_add, after_zero]
  | succ j ih => rw [Nat.add_right_comm, after_succ, after_succ, ih]

theorem after_of_stopped (stopped : m.state.status ≠ .running) (out : σ) (k : Nat) :
    m.after k out = (m, out) := by
  induction k with
  | zero => rfl
  | succ k ih =>
    obtain ⟨machine, sink⟩ := step_of_stopped stopped out
    rw [after_succ, machine, sink, ih]

/-- The steps of a machine that runs after them were a path. -/
theorem path_after {k : Nat} (running : (m.after k out).1.state.status = .running) :
    ∃ is : List Instruction, is.length = k ∧ Path m out is (m.after k out).1 (m.after k out).2 := by
  induction k generalizing m out with
  | zero => exact ⟨[], rfl, .nil m out⟩
  | succ k ih =>
    by_cases first : m.state.status = .running
    · obtain ⟨is, length, rest⟩ := ih running
      cases stepped : (m.step out).answer with
      | ok status =>
        obtain ⟨i, fetched, -, -⟩ := exists_counted_of_step first stepped
        exact ⟨i :: is, by rw [List.length_cons, length], .cons first fetched stepped rest⟩
      | error cause =>
        -- No step leads from a faulted machine to a running one.
        have faulted := (faulted_of_step first stepped).1
        rw [after_succ, after_of_stopped (by rw [faulted]; exact nofun)] at running
        rw [faulted] at running
        cases running
    · rw [after_of_stopped first] at running
      exact absurd running first

/-! ## Steps and runs -/

/-- Whether the step of the given number, counted from 0, is one in which the machine faults. -/
def FaultsAt (m : Machine) (out : σ) (j : Nat) (cause : Fault) : Prop :=
  (m.after j out).1.state.status = .running ∧
    ((m.after j out).1.step (m.after j out).2).answer = .error cause

/-- After a fault nothing changes any more. -/
theorem after_of_faultsAt {j k : Nat} {cause : Fault} (faults : m.FaultsAt out j cause)
    (less : j < k) :
    m.after k out = m.after (j + 1) out ∧ (m.after k out).1.state.status = .faulted := by
  obtain ⟨running, stepped⟩ := faults
  have next : m.after (j + 1) out = (((m.after j out).1.step (m.after j out).2).machine,
      ((m.after j out).1.step (m.after j out).2).sink) := by
    rw [after_add, after_succ, after_zero]
  have faulted : (m.after (j + 1) out).1.state.status = .faulted := by
    rw [next]
    exact (faulted_of_step running stepped).1
  have same : m.after k out = m.after (j + 1) out := by
    obtain ⟨rest, rfl⟩ := Nat.exists_eq_add_of_lt less
    rw [Nat.add_right_comm, after_add m out (j + 1), after_of_stopped (by rw [faulted]; exact nofun)]
  exact ⟨same, by rw [same, faulted]⟩

/-- The number of cycles that the limit leaves. -/
def room (m : Machine) : Nat := m.config.maxCycles.toNat - m.state.cycles.toNat

theorem room_pos (below : m.state.cycles < m.config.maxCycles) : 0 < m.room :=
  Nat.sub_pos_of_lt (UInt64.lt_iff_toNat_lt.mp below)

/-- A counted step leaves room for one cycle less. -/
theorem room_of_step {status : Status} (running : m.state.status = .running) (some : 0 < m.room)
    (stepped : (m.step out).answer = .ok status) :
    m.state.cycles < m.config.maxCycles ∧ m.room = (m.step out).machine.room + 1 := by
  rw [room] at some
  have below : m.state.cycles < m.config.maxCycles := UInt64.lt_iff_toNat_lt.mpr (by omega)
  obtain ⟨counted, config⟩ := counted_of_step running stepped
  refine ⟨below, ?_⟩
  rw [room, room, counted, config, toNat_succ_of_lt below]
  omega

/-- Below the limit, steps without a fault are the beginning of a run. -/
theorem run_after {k : Nat} (within : k ≤ m.room)
    (whole : ∀ j < k, ∀ cause, ¬ m.FaultsAt out j cause) :
    (m.after k out).1.run (m.after k out).2 = m.run out := by
  induction k generalizing m out with
  | zero => rfl
  | succ k ih =>
    by_cases running : m.state.status = .running
    · cases stepped : (m.step out).answer with
      | error cause => exact absurd ⟨running, stepped⟩ (whole 0 (Nat.succ_pos k) cause)
      | ok status =>
        obtain ⟨below, room⟩ := room_of_step running (by omega) stepped
        rw [after_succ, run_of_step_ok running below stepped]
        apply ih (by omega)
        intro j less cause faults
        exact whole (j + 1) (Nat.succ_lt_succ less) cause faults
    · rw [after_of_stopped running]

/-- A fault in a step below the limit is the fault that ends the run. -/
theorem run_of_faultsAt {j : Nat} {cause : Fault}
    (within : j < m.room) (faults : m.FaultsAt out j cause) :
    m.run out = ⟨(m.after (j + 1) out).1, (m.after (j + 1) out).2, .error cause⟩ := by
  obtain ⟨running, stepped⟩ := faults
  obtain ⟨is, length, path⟩ := path_after running
  rw [room] at within
  have front : is.length ≤ m.config.maxCycles.toNat - m.state.cycles.toNat := by omega
  have cycles := path.cycles front
  have below : (m.after j out).1.state.cycles < (m.after j out).1.config.maxCycles := by
    rw [UInt64.lt_iff_toNat_lt, path.config]
    omega
  rw [path.run_eq front, run_of_step_error running below stepped, after_add m out j 1]
  rfl

/-- What a run makes of the machine that its steps led to. -/
def settled (m : Machine) : Machine :=
  match m.state.status with
  | .running => m.exhaust.note (.halted m.state.cycles .cycleLimit)
  | .halted reason => m.note (.halted m.state.cycles reason)
  | .faulted => m

/-- A run is as many steps as the limit has room for, and then a stop. -/
theorem settled_after_of_run (m : Machine) (out : σ) :
    (m.run out).machine = (m.after m.room out).1.settled ∧
      (m.run out).sink = (m.after m.room out).2 := by
  by_cases fault : ∃ j < m.room, ∃ cause, m.FaultsAt out j cause
  · obtain ⟨j, less, cause, faults⟩ := fault
    obtain ⟨same, faulted⟩ := after_of_faultsAt faults less
    have settled : (m.after m.room out).1.settled = (m.after m.room out).1 := by
      simp only [settled, faulted]
    rw [settled, run_of_faultsAt less faults, same]
    exact ⟨rfl, rfl⟩
  · simp only [not_exists, not_and] at fault
    rw [← run_after (Nat.le_refl m.room) fault]
    cases status : (m.after m.room out).1.state.status with
    | running =>
      obtain ⟨is, length, path⟩ := path_after status
      have cycles := path.cycles (Nat.le_of_eq length)
      have reached : (m.after m.room out).1.config.maxCycles ≤
          (m.after m.room out).1.state.cycles := by
        rw [UInt64.le_iff_toNat_le, path.config, cycles, length, room]
        omega
      rw [run_of_overdue status reached]
      simp only [settled, status, and_self]
    | halted reason =>
      rw [run_of_halted status]
      simp only [settled, status, and_self]
    | faulted =>
      rw [run_of_faulted status]
      simp only [settled, status, and_self]

/-- Steps below the limit and a run behind them come to the same as the run alone. Only the answer
may differ: when one of the steps faults it has given the error of the run, and the run behind it
says that the machine has faulted. -/
theorem steps_then_run (m : Machine) (out : σ) {k : Nat}
    (within : m.state.cycles.toNat + k ≤ m.config.maxCycles.toNat) :
    let stepped := m.after k out
    let later := stepped.1.run stepped.2
    let direct := m.run out
    later.machine = direct.machine ∧ later.sink = direct.sink ∧
    ((∀ j < k, ∀ cause, ¬ m.FaultsAt out j cause) → later.answer = direct.answer) ∧
    (∀ j < k, ∀ cause, m.FaultsAt out j cause →
      direct.answer = .error cause ∧ later.answer = .error .alreadyFaulted) := by
  intro stepped later direct
  have enough : k ≤ m.room := by
    rw [room]
    omega
  -- A fault is in the machine that the direct run leaves, and the later run finds it there.
  have faulty : ∀ j < k, ∀ cause, m.FaultsAt out j cause →
      direct = ⟨stepped.1, stepped.2, .error cause⟩ ∧
        later = ⟨stepped.1, stepped.2, .error .alreadyFaulted⟩ := by
    intro j less cause faults
    obtain ⟨same, faulted⟩ := after_of_faultsAt faults less
    have ended : direct = ⟨(m.after (j + 1) out).1, (m.after (j + 1) out).2, .error cause⟩ :=
      run_of_faultsAt (Nat.lt_of_lt_of_le less enough) faults
    rw [← same] at ended
    exact ⟨ended, run_of_faulted faulted⟩
  by_cases fault : ∃ j < k, ∃ cause, m.FaultsAt out j cause
  · obtain ⟨j, less, cause, faults⟩ := fault
    obtain ⟨first, second⟩ := faulty j less cause faults
    rw [first, second]
    refine ⟨rfl, rfl, ?_, ?_⟩
    · intro whole
      exact absurd faults (whole j less cause)
    · intro j' less' cause' faults'
      have other := (faulty j' less' cause' faults').1
      rw [first] at other
      cases other
      exact ⟨rfl, rfl⟩
  · simp only [not_exists, not_and] at fault
    have same : later = direct := run_after enough fault
    rw [same]
    refine ⟨rfl, rfl, fun _ => rfl, ?_⟩
    intro j less cause faults
    exact absurd faults (fault j less cause)

/-- A program that prints R0 and then meets a byte that is no opcode. -/
def printAndStray : Machine :=
  { initial {} with
    state := { State.initial defaultStackTop with memory := Memory.zero.write 0 0x47 } }

/-- The second of three steps faults. -/
theorem steps_then_run_print_and_stray :
    let stepped := printAndStray.after 3 Printed.empty
    printAndStray.state.cycles.toNat + 3 ≤ printAndStray.config.maxCycles.toNat ∧
    printAndStray.FaultsAt Printed.empty 1 (.unknownOpcode ⟨2, 0⟩) ∧
    (printAndStray.run Printed.empty).answer = .error (.unknownOpcode ⟨2, 0⟩) ∧
    (stepped.1.run stepped.2).answer = .error .alreadyFaulted ∧
    (stepped.1.run stepped.2).machine = (printAndStray.run Printed.empty).machine := by
  have within : printAndStray.state.cycles.toNat + 3 ≤ printAndStray.config.maxCycles.toNat := by
    decide
  have faults : printAndStray.FaultsAt Printed.empty 1 (.unknownOpcode ⟨2, 0⟩) :=
    ⟨by decide +kernel, by rfl⟩
  obtain ⟨machine, -, -, answers⟩ := steps_then_run printAndStray Printed.empty within
  obtain ⟨direct, later⟩ := answers 1 (by decide) _ faults
  exact ⟨within, faults, direct, later, machine⟩

end Machine

end ByteMachine
