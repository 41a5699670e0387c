import ByteMachine.Proofs.Machine.Run

/-
  Runs as paths. A path is what the steps of a run leave behind: the instructions
  that were executed, one for each step, from one machine and its sink to another.
  Every machine of it was running except perhaps the last, and no step of it had a
  fault. By induction on the steps:

    1. `Path.cycles`: each step is counted once.
    2. `Path.status`: a halt can be the last instruction of a path and no other.
    3. `Path.run_eq`: below the limit a run can be cut at any machine on its path.
    4. `exists_path_of_run`: a run is a path, no longer than the limit allows, and one
       of four endings.
-/

namespace ByteMachine

namespace Machine

variable {σ : Type} [Sink σ] {m last : Machine} {out sink : σ} {is : List Instruction}

/-! ## Steps that succeed and steps that fail -/

/-- A step that succeeds executed the instruction it fetched. -/
theorem exists_counted_of_step {status : Status} (running : m.state.status = .running)
    (stepped : (m.step out).answer = .ok status) :
    ∃ i, m.fetch = .ok i ∧ (i.execute m.state out).fault = none ∧
      m.step out =
        ⟨{ m.record with
            state := (i.execute m.state out).state.atCycle (m.state.cycles + 1) },
          (i.execute m.state out).sink, .ok (i.execute m.state out).state.status⟩ := by
  cases stepEnd_of_running running out with
  | unread fault fetched same =>
    rw [same] at stepped
    cases stepped
  | failed i fault fetched wrong same =>
    rw [same] at stepped
    cases stepped
  | counted i fetched ok same => exact ⟨i, fetched, ok, same⟩

/-- A step that fails stops the machine and is not counted. -/
theorem faulted_of_step {fault : Fault} (running : m.state.status = .running)
    (stepped : (m.step out).answer = .error fault) :
    (m.step out).machine.state.status = .faulted ∧
      (m.step out).machine.state.cycles = m.state.cycles := by
  cases stepEnd_of_running running out with
  | unread fault' fetched same =>
    rw [same]
    exact ⟨rfl, rfl⟩
  | failed i fault' fetched wrong same =>
    rw [same]
    exact ⟨rfl, Instruction.cycles_execute i m.state out⟩
  | counted i fetched ok same =>
    rw [same] at stepped
    cases stepped

/-! ## Paths -/

/-- Steps without a fault from a machine and its sink to another, with the instructions that they
executed. -/
inductive Path : Machine → σ → List Instruction → Machine → σ → Prop
  | nil (m : Machine) (out : σ) : Path m out [] m out
  | cons {m last : Machine} {out sink : σ} {i : Instruction} {is : List Instruction}
      {status : Status} (running : m.state.status = .running) (fetched : m.fetch = .ok i)
      (stepped : (m.step out).answer = .ok status)
      (rest : Path (m.step out).machine (m.step out).sink is last sink) :
      Path m out (i :: is) last sink

/-- A counter below the limit does not start again at zero. -/
theorem toNat_succ_of_lt {cycles limit : UInt64} (below : cycles < limit) :
    (cycles + 1).toNat = cycles.toNat + 1 := by
  have := limit.toNat_lt
  rw [UInt64.lt_iff_toNat_lt] at below
  rw [UInt64.toNat_add, show (1 : UInt64).toNat = 1 from rfl]
  omega

namespace Path

/-- A path can be cut behind any of its instructions. -/
theorem split {js : List Instruction} (path : Path m out (is ++ js) last sink) :
    ∃ mid midSink, Path m out is mid midSink ∧ Path mid midSink js last sink := by
  induction is generalizing m out with
  | nil => exact ⟨m, out, .nil m out, path⟩
  | cons i is ih =>
    cases path with
    | cons running fetched stepped rest =>
      obtain ⟨mid, midSink, front, back⟩ := ih rest
      exact ⟨mid, midSink, .cons running fetched stepped front, back⟩

theorem config (path : Path m out is last sink) : last.config = m.config := by
  induction path with
  | nil => rfl
  | cons running _ stepped _ ih => rw [ih, (counted_of_step running stepped).2]

/-- The steps of a path that ends below the limit, or at it, are counted one by one. -/
theorem cycles (path : Path m out is last sink)
    (within : is.length ≤ m.config.maxCycles.toNat - m.state.cycles.toNat) :
    last.state.cycles.toNat = m.state.cycles.toNat + is.length := by
  induction path with
  | nil => rfl
  | @cons m last out sink i is status running _ stepped _ ih =>
    obtain ⟨counted, config⟩ := counted_of_step running stepped
    rw [List.length_cons] at within ⊢
    have below : m.state.cycles < m.config.maxCycles := UInt64.lt_iff_toNat_lt.mpr (by omega)
    have next := toNat_succ_of_lt below
    rw [counted, config, next] at ih
    rw [ih (by omega)]
    omega

/-- From a running machine on a halt ends the path. -/
theorem status (path : Path m out is last sink) (running : m.state.status = .running) :
    (last.state.status = .running ∧ .hlt ∉ is) ∨
      (last.state.status = .halted .instruction ∧ ∃ js, is = js ++ [.hlt] ∧ .hlt ∉ js) := by
  induction path with
  | nil => exact .inl ⟨running, List.not_mem_nil⟩
  | @cons m last out sink i is status _ fetched stepped rest ih =>
    obtain ⟨j, fetched', ok, same⟩ := exists_counted_of_step running stepped
    rw [fetched] at fetched'
    cases fetched'
    by_cases halt : i = .hlt
    · -- The next machine has halted, so no step goes on from it.
      have halted : (m.step out).machine.state.status = .halted .instruction := by
        rw [same, halt]
        rfl
      subst halt
      cases rest with
      | nil => exact .inr ⟨halted, [], rfl, List.not_mem_nil⟩
      | cons running' => rw [halted] at running'; cases running'
    · have next : (m.step out).machine.state.status = .running := by
        rw [same]
        exact (status_execute halt m.state out).trans running
      obtain ⟨goes, others⟩ | ⟨halted, js, rfl, others⟩ := ih next
      · exact .inl ⟨goes, List.not_mem_cons_of_ne_of_not_mem (Ne.symm halt) others⟩
      · exact .inr ⟨halted, i :: js, rfl, List.not_mem_cons_of_ne_of_not_mem (Ne.symm halt) others⟩

/-- A machine that does not run has no step before it. -/
theorem of_stopped (path : Path m out is last sink) (stopped : m.state.status ≠ .running) :
    is = [] ∧ last = m ∧ sink = out := by
  cases path with
  | nil => exact ⟨rfl, rfl, rfl⟩
  | cons running => exact absurd running stopped

/-- A halt at the end of a path has halted the machine. -/
theorem halted (path : Path m out (is ++ [.hlt]) last sink) :
    last.state.status = .halted .instruction := by
  by_cases running : m.state.status = .running
  · obtain ⟨-, others⟩ | ⟨halted, -⟩ := path.status running
    · exact absurd (List.mem_append_right is (List.mem_singleton.mpr rfl)) others
    · exact halted
  · have none := (path.of_stopped running).1
    cases is <;> cases none

/-- The run of a machine is the run of any machine that it reaches below its limit. -/
theorem run_eq (path : Path m out is last sink)
    (within : is.length ≤ m.config.maxCycles.toNat - m.state.cycles.toNat) :
    m.run out = last.run sink := by
  induction path with
  | nil => rfl
  | @cons m last out sink i is status running _ stepped _ ih =>
    obtain ⟨counted, config⟩ := counted_of_step running stepped
    rw [List.length_cons] at within
    have below : m.state.cycles < m.config.maxCycles := UInt64.lt_iff_toNat_lt.mpr (by omega)
    rw [counted, config, toNat_succ_of_lt below] at ih
    rw [run_of_step_ok running below stepped, ih (by omega)]

end Path

/-! ## The path of a run -/

/-- How a run ends in the machine that its steps led to. -/
inductive RunEnd (m : Machine) (out : σ) (done : Outcome σ HaltReason) : Prop
  | limit (running : m.state.status = .running) (reached : m.config.maxCycles ≤ m.state.cycles)
      (same : done = ⟨m.exhaust.note (.halted m.state.cycles .cycleLimit), out, .ok .cycleLimit⟩)
  | halted (reason : HaltReason) (stopped : m.state.status = .halted reason)
      (same : done = ⟨m.note (.halted m.state.cycles reason), out, .ok reason⟩)
  | faulted (stopped : m.state.status = .faulted) (same : done = ⟨m, out, .error .alreadyFaulted⟩)
  | fault (cause : Fault) (running : m.state.status = .running)
      (below : m.state.cycles < m.config.maxCycles)
      (stepped : (m.step out).answer = .error cause)
      (same : done = ⟨(m.step out).machine, (m.step out).sink, .error cause⟩)

theorem exists_path_of_run (m : Machine) (out : σ) :
    ∃ is last sink, Path m out is last sink ∧
      is.length ≤ m.config.maxCycles.toNat - m.state.cycles.toNat ∧
      RunEnd last sink (m.run out) := by
  fun_induction run m out with
  | case1 m out running below next fault stepped =>
    exact ⟨[], m, out, .nil m out, Nat.zero_le _, .fault fault running below stepped rfl⟩
  | case2 m out running below next status stepped ih =>
    obtain ⟨is, last, sink, rest, within, ends⟩ := ih
    obtain ⟨i, fetched, -, -⟩ := exists_counted_of_step running stepped
    obtain ⟨counted, config⟩ := counted_of_step running stepped
    refine ⟨i :: is, last, sink, .cons running fetched stepped rest, ?_, ends⟩
    rw [counted, config, toNat_succ_of_lt below] at within
    rw [UInt64.lt_iff_toNat_lt] at below
    rw [List.length_cons]
    omega
  | case3 m out running reached =>
    exact ⟨[], m, out, .nil m out, Nat.zero_le _, .limit running (UInt64.not_lt.mp reached) rfl⟩
  | case4 m out reason stopped =>
    exact ⟨[], m, out, .nil m out, Nat.zero_le _, .halted reason stopped rfl⟩
  | case5 m out stopped =>
    exact ⟨[], m, out, .nil m out, Nat.zero_le _, .faulted stopped rfl⟩

end Machine

end ByteMachine
