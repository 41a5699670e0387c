import ByteMachine.Proofs.Machine.Fetch

/-
  Runs. The run of a machine that is running and below its limit goes through one
  step and is then the run of the machine after it, or the fault of the step. Any
  other run has ended where it begins.
-/

namespace ByteMachine

namespace Machine

variable {σ : Type} [Sink σ] {m : Machine} {out : σ}

/-- A run of a running machine below its limit takes a step, which may end it. -/
theorem run_of_running (running : m.state.status = .running)
    (below : m.state.cycles < m.config.maxCycles) :
    m.run out =
      match (m.step out).answer with
      | .error fault => ⟨(m.step out).machine, (m.step out).sink, .error fault⟩
      | .ok _ => (m.step out).machine.run (m.step out).sink := by
  rw [run]
  split
  · rw [dif_pos below]
    dsimp only
    -- The two matches differ only in the equation that the recursion rests on.
    split
    · next h => rw [h]
    · next h => rw [h]
  · next h => rw [running] at h; cases h
  · next h => rw [running] at h; cases h

/-- A run goes on behind a step. -/
theorem run_of_step_ok {status : Status} (running : m.state.status = .running)
    (below : m.state.cycles < m.config.maxCycles) (stepped : (m.step out).answer = .ok status) :
    m.run out = (m.step out).machine.run (m.step out).sink := by
  rw [run_of_running running below, stepped]

/-- A fault ends a run. -/
theorem run_of_step_error {fault : Fault} (running : m.state.status = .running)
    (below : m.state.cycles < m.config.maxCycles) (stepped : (m.step out).answer = .error fault) :
    m.run out = ⟨(m.step out).machine, (m.step out).sink, .error fault⟩ := by
  rw [run_of_running running below, stepped]

/-- Where the state is that of a machine without a counter after `n` cycles, an instruction
without a fault leads to one after `n + 1` cycles. -/
theorem run_of_execute_ok {f : State} {n : Nat} {i : Instruction}
    (state : m.state = f.atCycle (UInt64.ofNat n)) (running : m.state.status = .running)
    (below : m.state.cycles < m.config.maxCycles) (fetched : m.fetch = .ok i)
    (ok : (i.execute f out).fault = none) :
    ∃ next : Machine, m.run out = next.run (i.execute f out).sink ∧
      next.state = (i.execute f out).state.atCycle (UInt64.ofNat (n + 1)) ∧
      next.config = m.config := by
  have same : i.execute m.state out = (i.execute f out).atCycle (UInt64.ofNat n) := by
    rw [state, execute_atCycle]
  have cycles : m.state.cycles = UInt64.ofNat n := by rw [state]; rfl
  have stepped := step_of_execute_ok running fetched (show (i.execute m.state out).fault = none by
    rw [same]
    exact ok)
  have ran := run_of_step_ok running below (by rw [stepped])
  rw [stepped, same, cycles] at ran
  refine ⟨_, ran, ?_, rfl⟩
  rw [UInt64.ofNat_add]
  rfl

/-- An instruction with a fault ends the run with what it did. -/
theorem run_of_execute_fault {f : State} {n : Nat} {i : Instruction} {fault : Fault}
    (state : m.state = f.atCycle (UInt64.ofNat n)) (running : m.state.status = .running)
    (below : m.state.cycles < m.config.maxCycles) (fetched : m.fetch = .ok i)
    (failed : (i.execute f out).fault = some fault) :
    (m.run out).answer = .error fault ∧ (m.run out).sink = (i.execute f out).sink ∧
      (m.run out).machine.state =
        { (i.execute f out).state with status := .faulted, cycles := UInt64.ofNat n } := by
  have same : i.execute m.state out = (i.execute f out).atCycle (UInt64.ofNat n) := by
    rw [state, execute_atCycle]
  have stepped := step_of_execute_fault running fetched
    (show (i.execute m.state out).fault = some fault by
      rw [same]
      exact failed)
  rw [same] at stepped
  rw [run_of_step_error running below (by rw [stepped]), stepped]
  exact ⟨rfl, rfl, rfl⟩

theorem run_of_halted {reason : HaltReason} (halted : m.state.status = .halted reason) :
    m.run out = ⟨m.note (.halted m.state.cycles reason), out, .ok reason⟩ := by
  rw [run]
  split
  · next h => rw [halted] at h; cases h
  · next h => rw [halted] at h; cases h; rfl
  · next h => rw [halted] at h; cases h

theorem run_of_faulted (faulted : m.state.status = .faulted) :
    m.run out = ⟨m, out, .error .alreadyFaulted⟩ := by
  rw [run]
  split
  · next h => rw [faulted] at h; cases h
  · next h => rw [faulted] at h; cases h
  · rfl

/-- A running machine that has reached its limit takes no step. -/
theorem run_of_overdue (running : m.state.status = .running)
    (reached : m.config.maxCycles ≤ m.state.cycles) :
    m.run out = ⟨m.exhaust.note (.halted m.state.cycles .cycleLimit), out, .ok .cycleLimit⟩ := by
  rw [run]
  split
  · rw [dif_neg (UInt64.not_lt.mpr reached)]
  · next h => rw [running] at h; cases h
  · next h => rw [running] at h; cases h

end Machine

end ByteMachine
