import ByteMachine.Proofs.Machine.Path

/-
  The limit on cycles. A program may loop for ever and may rewrite itself, so only
  the counter ends its run. Nothing is assumed of the machine here: single steps,
  images loaded later and earlier runs may have left it in any state.

    1. `run_is_accounted`: a run takes no more steps than the limit leaves, each of
       them is counted below the limit, and the way it ends says which instructions
       were executed.
    2. `limit_truncates`: a lower limit only cuts a run off. What ended without the
       limit ends the same way under any higher one, and what the limit ended is the
       first part of the longer run.
-/

namespace ByteMachine

namespace Machine

/-! ## The account of a run -/

section Accounts
variable {σ : Type} [Sink σ] {m last : Machine} {out sink : σ} {is : List Instruction}
  {done : Outcome σ HaltReason}

/-- No end of a run leaves a running machine, and none counts another cycle. -/
theorem RunEnd.stopped (ends : RunEnd last sink done) :
    done.machine.state.status ≠ .running ∧ done.machine.state.cycles = last.state.cycles := by
  cases ends with
  | limit running reached same =>
    rw [same]
    exact ⟨nofun, rfl⟩
  | halted reason stopped same =>
    have status : (last.note (.halted last.state.cycles reason)).state.status = .halted reason :=
      stopped
    rw [same, status]
    exact ⟨nofun, rfl⟩
  | faulted stopped same =>
    rw [same, stopped]
    exact ⟨nofun, rfl⟩
  | fault cause running below stepped same =>
    obtain ⟨status, cycles⟩ := faulted_of_step running stepped
    rw [same, status]
    exact ⟨nofun, cycles⟩

/-- The three ways in which the run of a running machine ends, after the steps of a path. -/
inductive Ending (m : Machine) (is : List Instruction) (last : Machine) (sink : σ)
    (done : Outcome σ HaltReason) : Prop
  /-- The limit was reached, or had been before, and no instruction was a halt. -/
  | limit (answer : done.answer = .ok .cycleLimit)
      (cycles : done.machine.state.cycles.toNat =
        max m.state.cycles.toNat m.config.maxCycles.toNat)
      (others : .hlt ∉ is)
      (state : done.machine.state = { last.state with status := .halted .cycleLimit })
      (kept : done.sink = sink)
  /-- The last instruction was a halt, and none before it was. -/
  | halt (answer : done.answer = .ok .instruction)
      (own : ∃ js, is = js ++ [.hlt] ∧ .hlt ∉ js)
      (state : done.machine.state = last.state) (kept : done.sink = sink)
  /-- One more step was attempted and faulted. It has its place below the limit. -/
  | fault (cause : Fault) (answer : done.answer = .error cause)
      (running : last.state.status = .running) (stepped : (last.step sink).answer = .error cause)
      (attempted : is.length + 1 ≤ m.config.maxCycles.toNat - m.state.cycles.toNat)
      (machine : done.machine = (last.step sink).machine) (kept : done.sink = (last.step sink).sink)

theorem Path.ending (path : Path m out is last sink)
    (within : is.length ≤ m.config.maxCycles.toNat - m.state.cycles.toNat)
    (running : m.state.status = .running) (ends : RunEnd last sink done) :
    Ending m is last sink done := by
  have counted := path.cycles within
  obtain ⟨goes, others⟩ | ⟨halted, own⟩ := path.status running
  · cases ends with
    | limit _ reached same =>
      rw [path.config, UInt64.le_iff_toNat_le] at reached
      have cycles : last.state.cycles.toNat =
          max m.state.cycles.toNat m.config.maxCycles.toNat := by omega
      rw [same]
      exact .limit rfl cycles others rfl rfl
    | fault cause _ below stepped same =>
      rw [path.config, UInt64.lt_iff_toNat_lt] at below
      rw [same]
      exact .fault cause rfl goes stepped (by omega) rfl rfl
    | halted reason stopped same | faulted stopped same =>
      rw [goes] at stopped
      cases stopped
  · cases ends with
    | halted reason stopped same =>
      rw [halted] at stopped
      cases stopped
      rw [same]
      exact .halt rfl own rfl rfl
    | faulted stopped same =>
      rw [halted] at stopped
      cases stopped
    | limit running' reached same | fault cause running' below stepped same =>
      rw [halted] at running'
      cases running'

/-- The cycles of a run are the steps of its path. -/
theorem cycles_run (path : Path m out is last sink)
    (within : is.length ≤ m.config.maxCycles.toNat - m.state.cycles.toNat)
    (ends : RunEnd last sink done) :
    done.machine.state.cycles.toNat = m.state.cycles.toNat + is.length := by
  rw [ends.stopped.2, path.cycles within]

theorem cycles_le_run (m : Machine) (out : σ) :
    m.state.cycles ≤ (m.run out).machine.state.cycles := by
  obtain ⟨is, last, sink, path, within, ends⟩ := exists_path_of_run m out
  rw [UInt64.le_iff_toNat_le, cycles_run path within ends]
  exact Nat.le_add_right ..

/-- What a run does whose steps are those of the path. -/
structure Accounted (m : Machine) (out : σ) (is : List Instruction) (last : Machine) (sink : σ)
    (done : Outcome σ HaltReason) : Prop where
  stopped : done.machine.state.status ≠ .running
  within : is.length ≤ m.config.maxCycles.toNat - m.state.cycles.toNat
  counted : done.machine.state.cycles.toNat = m.state.cycles.toNat + is.length
  /-- Each step is counted below the limit, so the counter does not start again at zero. -/
  below : ∀ k < is.length, ∃ mid midSink,
    Path m out (is.take k) mid midSink ∧ Path mid midSink (is.drop k) last sink ∧
    mid.state.cycles < m.config.maxCycles ∧
    (mid.state.cycles + 1).toNat = mid.state.cycles.toNat + 1
  ending : m.state.status = .running → Ending m is last sink done
  /-- A machine past its limit is stopped at once. -/
  overdue : m.state.status = .running → m.config.maxCycles ≤ m.state.cycles →
    is = [] ∧ done.answer = .ok .cycleLimit ∧
    done.machine.state = { m.state with status := .halted .cycleLimit } ∧
    done.machine.rows = m.rows ∧ done.sink = out
  /-- A machine that does not run takes no step. -/
  idle : m.state.status ≠ .running →
    is = [] ∧ done.machine.state = m.state ∧ done.machine.rows = m.rows ∧ done.sink = out

/-- Every run ends, within its limit, and accounts for its steps. -/
theorem run_is_accounted (m : Machine) (out : σ) :
    ∃ is last sink, Path m out is last sink ∧ Accounted m out is last sink (m.run out) := by
  obtain ⟨is, last, sink, path, within, ends⟩ := exists_path_of_run m out
  refine ⟨is, last, sink, path, ends.stopped.1, within, cycles_run path within ends, ?_,
    fun running => path.ending within running ends, ?_, ?_⟩
  · intro k less
    have parts := path
    rw [← List.take_append_drop k is] at parts
    obtain ⟨mid, midSink, front, back⟩ := parts.split
    have length : (is.take k).length = k := List.length_take_of_le (Nat.le_of_lt less)
    have cycles := front.cycles (by omega)
    have below : mid.state.cycles < m.config.maxCycles := UInt64.lt_iff_toNat_lt.mpr (by omega)
    exact ⟨mid, midSink, front, back, below, toNat_succ_of_lt below⟩
  · intro running past
    have none : is = [] := by
      rw [UInt64.le_iff_toNat_le] at past
      exact List.length_eq_zero_iff.mp (by omega)
    rw [run_of_overdue running past]
    exact ⟨none, rfl, rfl, rfl, rfl⟩
  · intro stopped
    have none := (path.of_stopped stopped).1
    cases status : m.state.status with
    | running => exact absurd status stopped
    | halted reason =>
      rw [run_of_halted status]
      exact ⟨none, rfl, rfl, rfl⟩
    | faulted =>
      rw [run_of_faulted status]
      exact ⟨none, rfl, rfl, rfl⟩

end Accounts

/-! ## Other limits -/

/-- The machine with another limit on its cycles. -/
def withLimit (m : Machine) (limit : UInt64) : Machine :=
  { m with config := { m.config with maxCycles := limit } }

end Machine

/-- The outcome with another limit in the machine. -/
def Outcome.withLimit {σ α : Type} (o : Outcome σ α) (limit : UInt64) : Outcome σ α :=
  { o with machine := o.machine.withLimit limit }

namespace Machine

section Limits
variable {σ : Type} [Sink σ] {m last : Machine} {out sink : σ} {is : List Instruction}

/-- A step does not look at the limit. -/
theorem step_withLimit (m : Machine) (out : σ) (limit : UInt64) :
    (m.withLimit limit).step out = (m.step out).withLimit limit := by
  cases status : m.state.status with
  | halted reason => simp only [step, withLimit, status, Outcome.withLimit]
  | faulted => simp only [step, withLimit, status, Outcome.withLimit]
  | running =>
    have running : (m.withLimit limit).state.status = .running := status
    cases stepEnd_of_running status out with
    | unread fault fetched same =>
      have fetched : (m.withLimit limit).fetch = .error fault := fetched
      rw [same, step_of_fetch_error running fetched]
      rfl
    | failed i fault fetched wrong same =>
      have fetched : (m.withLimit limit).fetch = .ok i := fetched
      rw [same, step_of_execute_fault running fetched wrong]
      rfl
    | counted i fetched ok same =>
      have fetched : (m.withLimit limit).fetch = .ok i := fetched
      rw [same, step_of_execute_ok running fetched ok]
      rfl

theorem Path.withLimit (path : Path m out is last sink) (limit : UInt64) :
    Path (m.withLimit limit) out is (last.withLimit limit) sink := by
  induction path with
  | nil m out => exact .nil _ out
  | @cons m last out sink i is status running fetched stepped rest ih =>
    have same := step_withLimit m out limit
    have stepped' : ((m.withLimit limit).step out).answer = .ok status := by
      rw [same]
      exact stepped
    refine .cons running fetched stepped' ?_
    rw [same]
    exact ih

/-- What stopped without its limit stops in the same way under a higher one. -/
theorem run_withLimit_of_end {done : Outcome σ HaltReason} {limit : UInt64}
    (le : last.config.maxCycles ≤ limit) (ends : RunEnd last sink done)
    (other : last.state.status = .running → done.answer ≠ .ok .cycleLimit) :
    (last.withLimit limit).run sink = done.withLimit limit := by
  cases ends with
  | limit running reached same =>
    rw [same] at other
    exact absurd rfl (other running)
  | halted reason stopped same =>
    have stopped : (last.withLimit limit).state.status = .halted reason := stopped
    rw [run_of_halted stopped, same]
    rfl
  | faulted stopped same =>
    have stopped : (last.withLimit limit).state.status = .faulted := stopped
    rw [run_of_faulted stopped, same]
    rfl
  | fault cause running below stepped same =>
    have below' : (last.withLimit limit).state.cycles < limit :=
      UInt64.lt_of_lt_of_le below le
    have stepped' : ((last.withLimit limit).step sink).answer = .error cause := by
      rw [step_withLimit]
      exact stepped
    have running' : (last.withLimit limit).state.status = .running := running
    rw [run_of_step_error running' below' stepped', step_withLimit, same]
    rfl

end Limits

/-! ## What only grows -/

/-- Whether what was kept and printed is the beginning of what is later. -/
structure Extends (m : Machine) (out : Printed) (later : Machine) (sink : Printed) : Prop where
  rows : m.rows.toList <+: later.rows.toList
  values : out.values.toList <+: sink.values.toList

section Growth
variable {m last : Machine} {out sink : Printed} {is : List Instruction}

theorem Extends.refl (m : Machine) (out : Printed) : Extends m out m out :=
  ⟨List.prefix_rfl, List.prefix_rfl⟩

theorem Extends.trans {m₁ m₂ m₃ : Machine} {out₁ out₂ out₃ : Printed}
    (first : Extends m₁ out₁ m₂ out₂) (second : Extends m₂ out₂ m₃ out₃) :
    Extends m₁ out₁ m₃ out₃ :=
  ⟨first.rows.trans second.rows, first.values.trans second.values⟩

/-- What is printed stands behind what was printed before. -/
theorem values_execute (i : Instruction) (s : State) (out : Printed) :
    out.values.toList <+: (i.execute s out).sink.values.toList := by
  obtain ⟨rs, rfl⟩ | same := (execute_frame i s out).2
  · have printed : ((Instruction.prn rs).execute s out).sink = ⟨out.values.push (s.get rs)⟩ := by
      show ((Instruction.prn rs).advance s (⟨out.values.push (s.get rs)⟩ : Printed)).sink = _
      rw [Instruction.sink_advance]
    rw [printed, Array.toList_push]
    exact List.prefix_append ..
  · have kept : (i.execute s out).sink.values.toList = out.values.toList := by rw [same]
    exact kept ▸ List.prefix_rfl

theorem rows_record (m : Machine) : m.rows.toList <+: m.record.rows.toList := by
  show m.rows.toList <+:
    (if m.config.keepRows then m.rows.push (.ofState m.state) else m.rows).toList
  split
  · rw [Array.toList_push]
    exact List.prefix_append ..
  · exact List.prefix_rfl

theorem extends_step (m : Machine) (out : Printed) :
    Extends m out (m.step out).machine (m.step out).sink := by
  cases status : m.state.status with
  | halted reason =>
    simp only [step, status]
    exact .refl m out
  | faulted =>
    simp only [step, status]
    exact .refl m out
  | running =>
    cases stepEnd_of_running status out with
    | unread fault fetched same =>
      rw [same]
      exact ⟨rows_record m, List.prefix_rfl⟩
    | failed i fault fetched wrong same =>
      rw [same]
      exact ⟨rows_record m, values_execute i m.state out⟩
    | counted i fetched ok same =>
      rw [same]
      exact ⟨rows_record m, values_execute i m.state out⟩

theorem Path.extends (path : Path m out is last sink) : Extends m out last sink := by
  induction path with
  | nil m out => exact .refl m out
  | @cons m last out sink i is status running fetched stepped rest ih =>
    exact (extends_step m out).trans ih

/-- A run keeps what was there before it. -/
theorem extends_run (m : Machine) (out : Printed) :
    Extends m out (m.run out).machine (m.run out).sink := by
  obtain ⟨is, last, sink, path, -, ends⟩ := exists_path_of_run m out
  apply path.extends.trans
  cases ends with
  | limit running reached same | halted reason stopped same | faulted stopped same =>
    rw [same]
    exact ⟨List.prefix_rfl, List.prefix_rfl⟩
  | fault cause running below stepped same =>
    rw [same]
    exact extends_step last sink

end Growth

/-! ## Two limits -/

/-- What it means that the run that goes on is the same as the run that its limit cut off, up to
there. -/
structure CutOff (m : Machine) (out : Printed) (short long : Outcome Printed HaltReason) : Prop where
  values : short.sink.values.toList <+: long.sink.values.toList
  rows : short.machine.rows.toList <+: long.machine.rows.toList
  /-- The longer run goes through the registers, the program counter, the memory and the number of
  cycles with which the shorter one ends, and from there it is the run to its end. -/
  through : ∃ is mid, Path m out is mid short.sink ∧
    mid.state = { short.machine.state with status := .running } ∧
    mid.rows = short.machine.rows ∧ long = mid.run short.sink
  cycles : short.machine.state.cycles ≤ long.machine.state.cycles

/-- A run that its limit ends has only reached a machine on the path of the longer run. -/
theorem cutOff_of_limit {last : Machine} {sink : Printed} {is : List Instruction}
    {short : Outcome Printed HaltReason} {m : Machine} {out : Printed} {high : UInt64}
    (path : Path m out is (last.withLimit high) sink) (running : last.state.status = .running)
    (same : short =
      ⟨last.exhaust.note (.halted last.state.cycles .cycleLimit), sink, .ok .cycleLimit⟩) :
    CutOff m out short ((last.withLimit high).run sink) := by
  have grown := extends_run (last.withLimit high) sink
  have state : last.state = { last.state with status := .running } := by rw [← running]
  subst same
  exact ⟨grown.values, grown.rows, ⟨is, last.withLimit high, path, state, rfl, rfl⟩,
    cycles_le_run (last.withLimit high) sink⟩

/-- A lower limit only cuts a run off. -/
theorem limit_truncates {low high : UInt64} (le : low ≤ high) (m : Machine) (out : Printed) :
    let short := (m.withLimit low).run out
    let long := (m.withLimit high).run out
    (m.state.status ≠ .running ∨ short.answer = .ok .instruction ∨
      (∃ cause, short.answer = .error cause) → long = short.withLimit high) ∧
    (m.state.status = .running → short.answer = .ok .cycleLimit →
      CutOff (m.withLimit high) out short long) ∧
    (∀ is last sink, Path m out (is ++ [.hlt]) last sink →
      low.toNat = m.state.cycles.toNat + (is ++ [.hlt]).length →
      short.answer = .ok .instruction) := by
  intro short long
  obtain ⟨is, last, sink, path, within, ends⟩ := exists_path_of_run (m.withLimit low) out
  have under : low.toNat ≤ high.toNat := UInt64.le_iff_toNat_le.mp le
  have within : is.length ≤ low.toNat - m.state.cycles.toNat := within
  -- The longer run takes the same steps and goes on where the shorter one ended.
  have path' : Path (m.withLimit high) out is (last.withLimit high) sink := path.withLimit high
  have cut : long = (last.withLimit high).run sink :=
    path'.run_eq (show is.length ≤ high.toNat - m.state.cycles.toNat by omega)
  refine ⟨?_, ?_, ?_⟩
  · intro other
    have limit : last.config.maxCycles = low := by rw [path.config]; rfl
    rw [cut]
    apply run_withLimit_of_end (by rw [limit]; exact le) ends
    intro running answer
    have answer : short.answer = .ok .cycleLimit := answer
    obtain stopped | halted | ⟨cause, faulted⟩ := other
    · obtain ⟨-, rfl, -⟩ := path.of_stopped stopped
      exact stopped running
    · rw [answer] at halted
      cases halted
    · rw [answer] at faulted
      cases faulted
  · intro running answer
    have answer : ((m.withLimit low).run out).answer = .ok .cycleLimit := answer
    rw [cut]
    cases ends with
    | limit running' reached same => exact cutOff_of_limit path' running' same
    | halted reason stopped same =>
      -- A machine that its limit had halted before was not running.
      rw [same] at answer
      cases answer
      obtain ⟨goes, -⟩ | ⟨halted, -⟩ := path.status running
      · rw [stopped] at goes
        cases goes
      · rw [stopped] at halted
        cases halted
    | faulted stopped same | fault cause running' below stepped same =>
      rw [same] at answer
      cases answer
  · intro js last sink path reached
    have path := path.withLimit low
    have whole : short = (last.withLimit low).run sink :=
      path.run_eq (show (js ++ [Instruction.hlt]).length ≤ low.toNat - m.state.cycles.toNat by omega)
    rw [whole, run_of_halted path.halted]

/-- A program that prints R0 and halts. -/
def printAndHalt : Machine :=
  { initial {} with
    state := { State.initial defaultStackTop with
      memory := (Memory.zero.write 0 0x47).write 2 0x01 } }

theorem path_printAndHalt : ∃ mid midSink last sink,
    Path printAndHalt Printed.empty [.prn ⟨0⟩] mid midSink ∧ mid.state.status = .running ∧
    Path printAndHalt Printed.empty ([.prn ⟨0⟩] ++ [.hlt]) last sink := by
  have running : printAndHalt.state.status = .running := rfl
  have print : printAndHalt.fetch = .ok (.prn ⟨0⟩) := by
    have bytes : printAndHalt.ahead =
        (Instruction.prn ⟨0⟩).encode ++ printAndHalt.ahead.drop 2 := by decide +kernel
    exact fetch_of_encode bytes
  have first := step_of_execute_ok running print
    (show ((Instruction.prn ⟨0⟩).execute printAndHalt.state Printed.empty).fault = none by
      decide +kernel)
  have halt : (printAndHalt.step Printed.empty).machine.fetch = .ok .hlt := by
    have bytes : (printAndHalt.step Printed.empty).machine.ahead =
        Instruction.hlt.encode ++ printAndHalt.ahead.drop 3 := by decide +kernel
    exact fetch_of_encode bytes
  have running' : (printAndHalt.step Printed.empty).machine.state.status = .running := by
    rw [first]
    exact (execute_frame (.prn ⟨0⟩) _ _).1.resolve_left nofun
  have second := step_of_execute_ok running' halt
    (show (Instruction.hlt.execute (printAndHalt.step Printed.empty).machine.state
      (printAndHalt.step Printed.empty).sink).fault = none from rfl)
  exact ⟨_, _, _, _, .cons running print (by rw [first]) (.nil _ _), running',
    .cons running print (by rw [first]) (.cons running' halt (by rw [second]) (.nil _ _))⟩

/-- The halt is the second instruction: a limit of two lets it halt, and a limit of one cuts the
run off behind the print. -/
theorem limit_truncates_print_and_halt :
    (1 : UInt64) ≤ 2 ∧ (2 : UInt64) ≤ 3 ∧
    ((printAndHalt.withLimit 2).run Printed.empty).answer = .ok .instruction ∧
    ((printAndHalt.withLimit 1).run Printed.empty).answer = .ok .cycleLimit ∧
    CutOff (printAndHalt.withLimit 2) Printed.empty
      ((printAndHalt.withLimit 1).run Printed.empty)
      ((printAndHalt.withLimit 2).run Printed.empty) := by
  obtain ⟨mid, midSink, last, sink, before, running, whole⟩ := path_printAndHalt
  have cut : ((printAndHalt.withLimit 1).run Printed.empty).answer = .ok .cycleLimit := by
    have path := before.withLimit 1
    have within : [Instruction.prn ⟨0⟩].length ≤ (1 : UInt64).toNat - (0 : UInt64).toNat := by decide
    have reached : (1 : UInt64) ≤ mid.state.cycles := by
      rw [UInt64.le_iff_toNat_le]
      exact Nat.le_of_eq (path.cycles within).symm
    have config : (mid.withLimit 1).config.maxCycles ≤ (mid.withLimit 1).state.cycles := reached
    have running : (mid.withLimit 1).state.status = .running := running
    rw [path.run_eq within, run_of_overdue running config]
  obtain ⟨-, -, halts⟩ :=
    limit_truncates (show (2 : UInt64) ≤ 3 by decide) printAndHalt Printed.empty
  obtain ⟨-, cuts, -⟩ :=
    limit_truncates (show (1 : UInt64) ≤ 2 by decide) printAndHalt Printed.empty
  exact ⟨by decide, by decide, halts _ _ _ whole rfl, cut, cuts rfl cut⟩

end Machine

end ByteMachine
