import ByteMachine.Proofs.Machine.Output
import ByteMachine.Proofs.Machine.Trace

/-
  What a run leaves on record. A run is a list of cycles that began, each in a state
  of its own. From these states alone it can be told:

    1. `rows_run` and `journal_run`: which rows are kept and which are written to the
       journal, where one event for the end of the run stands behind them.
    2. `values_run`: what was printed, also by a cycle that faulted after its print.
    3. `length_begun`: how many cycles were counted.
-/

namespace ByteMachine

open Instruction (decode)

/-- The value that the cycle beginning in the state prints, if it prints one. -/
def State.printed? (s : State) : Option UInt8 :=
  match decode (s.memory.toList.drop s.pc.toNat) with
  | .ok (.prn rs) => some (s.get rs)
  | _ => none

namespace Machine

section Begun
variable {σ : Type} [Sink σ] {m : Machine} {out : σ}

/-! ## The cycles of a run -/

/-- The states in which the cycles of the run begin, also a cycle that faults. -/
def begun (m : Machine) (out : σ) : List State := (attempts (m.inRun out)).map (·.state)

theorem attempts_append (log more : List Happening) :
    attempts (log ++ more) = attempts log ++ attempts more := List.filterMap_append ..

theorem begun_eq_inSteps (m : Machine) (out : σ) :
    m.begun out = (attempts (m.inSteps m.room out)).map (·.state) := by
  rw [begun, inRun]
  split
  · rw [attempts_limit]
  · rw [List.append_nil]

theorem inSteps_of_stopped (stopped : m.state.status ≠ .running) (k : Nat) :
    m.inSteps k out = [] := by
  induction k with
  | zero => rfl
  | succ k ih =>
    obtain ⟨machine, sink⟩ := step_of_stopped stopped out
    rw [inSteps, if_neg stopped, machine, sink, ih, List.nil_append]

theorem begun_of_stopped (stopped : m.state.status ≠ .running) : m.begun out = [] := by
  rw [begun_eq_inSteps, inSteps_of_stopped stopped]
  rfl

theorem begun_of_halted {reason : HaltReason} (halted : m.state.status = .halted reason) :
    m.begun out = [] := by
  apply begun_of_stopped
  intro running
  rw [halted] at running
  cases running

theorem begun_of_faulted (faulted : m.state.status = .faulted) : m.begun out = [] := by
  apply begun_of_stopped
  intro running
  rw [faulted] at running
  cases running

theorem begun_of_overdue (reached : m.config.maxCycles ≤ m.state.cycles) : m.begun out = [] := by
  have none : m.room = 0 := by
    rw [UInt64.le_iff_toNat_le] at reached
    exact Nat.sub_eq_zero_of_le reached
  rw [begun_eq_inSteps, none]
  rfl

/-- A run that takes a step has the cycles behind the step as well. -/
theorem begun_of_room {k : Nat} (running : m.state.status = .running) (room : m.room = k + 1) :
    m.begun out =
      m.state :: (attempts ((m.step out).machine.inSteps k (m.step out).sink)).map (·.state) := by
  rw [begun_eq_inSteps, room, inSteps, if_pos running, attempts_append]
  rfl

theorem begun_of_step_ok {status : Status} (running : m.state.status = .running)
    (below : m.state.cycles < m.config.maxCycles) (stepped : (m.step out).answer = .ok status) :
    m.begun out = m.state :: (m.step out).machine.begun (m.step out).sink := by
  rw [begun_of_room running (room_of_step running (room_pos below) stepped).2, begun_eq_inSteps]

/-- A cycle that faults is the last one. -/
theorem begun_of_step_error {fault : Fault} (running : m.state.status = .running)
    (below : m.state.cycles < m.config.maxCycles) (stepped : (m.step out).answer = .error fault) :
    m.begun out = [m.state] := by
  obtain ⟨k, room⟩ := Nat.exists_eq_succ_of_ne_zero (Nat.ne_of_gt (room_pos below))
  have stopped : (m.step out).machine.state.status ≠ .running := by
    rw [(faulted_of_step running stepped).1]
    exact nofun
  rw [begun_of_room running room, inSteps_of_stopped stopped]
  rfl

/-- A step without a fault does not leave a faulted machine. -/
theorem alive_of_step {status : Status} (running : m.state.status = .running)
    (stepped : (m.step out).answer = .ok status) :
    (m.step out).machine.state.status ≠ .faulted := by
  obtain ⟨i, -, -, same⟩ := exists_counted_of_step running stepped
  rw [same]
  exact status_execute_ne_faulted running i out

/-! ## Rows and events -/

/-- The event of a cycle that begins in the state. -/
def beginning (s : State) : Event := .row (.ofState s)

/-- The event with which the journal tells the end of a run. -/
def ending (done : Outcome σ HaltReason) : Event :=
  match done.answer with
  | .ok reason => .halted done.machine.state.cycles reason
  | .error fault => .faulted fault done.machine.state.pc done.machine.state.cycles

theorem rows_record_eq (m : Machine) :
    m.record.rows.toList =
      m.rows.toList ++ if m.config.keepRows then [.ofState m.state] else [] := by
  show (if m.config.keepRows then m.rows.push (.ofState m.state) else m.rows).toList = _
  split
  · exact Array.toList_push
  · exact (List.append_nil _).symm

theorem journal_record (m : Machine) :
    m.record.journal.toList =
      m.journal.toList ++ if m.config.logRows then [beginning m.state] else [] := by
  show (if m.config.logRows then m.journal.push (.row (.ofState m.state)) else m.journal).toList = _
  split
  · exact Array.toList_push
  · exact (List.append_nil _).symm

theorem rows_step (running : m.state.status = .running) (out : σ) :
    (m.step out).machine.rows = m.record.rows := by
  cases stepEnd_of_running running out with
  | unread fault fetched same | failed i fault fetched wrong same =>
    rw [same]
    rfl
  | counted i fetched ok same => rw [same]

theorem journal_step_ok {status : Status} (running : m.state.status = .running)
    (stepped : (m.step out).answer = .ok status) :
    (m.step out).machine.journal = m.record.journal := by
  obtain ⟨i, -, -, same⟩ := exists_counted_of_step running stepped
  rw [same]

theorem journal_step_error {fault : Fault} (running : m.state.status = .running)
    (stepped : (m.step out).answer = .error fault) :
    (m.step out).machine.journal = m.record.journal.push (.faulted fault
      (m.step out).machine.state.pc (m.step out).machine.state.cycles) := by
  cases stepEnd_of_running running out with
  | unread cause fetched same | failed i cause fetched wrong same =>
    rw [same] at stepped ⊢
    cases stepped
    rfl
  | counted i fetched ok same =>
    rw [same] at stepped
    cases stepped

/-- What a list is per cycle, if it is anything. -/
theorem append_perCycle {α : Type} (told : Bool) (f : State → α) (before : List α) (s : State)
    (rest : List State) :
    (before ++ if told then [f s] else []) ++ (if told then rest.map f else []) =
      before ++ if told then (s :: rest).map f else [] := by
  cases told with
  | true => exact List.append_assoc before [f s] (rest.map f)
  | false => exact List.append_assoc before [] []

/-- A machine that keeps its rows has one for each cycle that began. -/
theorem rows_run (m : Machine) (out : σ) :
    (m.run out).machine.rows.toList =
      m.rows.toList ++ if m.config.keepRows then (m.begun out).map .ofState else [] := by
  fun_induction run m out with
  | case1 m out running below next fault stepped =>
    rw [begun_of_step_error running below stepped, rows_step running, rows_record_eq]
    rfl
  | case2 m out running below next status stepped ih =>
    rw [ih, begun_of_step_ok running below stepped, rows_step running,
      (counted_of_step running stepped).2, rows_record_eq,
      append_perCycle m.config.keepRows TraceRow.ofState]
  | case3 m out running reached =>
    rw [begun_of_overdue (UInt64.not_lt.mp reached), List.map_nil, ite_self, List.append_nil]
    rfl
  | case4 m out reason stopped =>
    rw [begun_of_halted stopped, List.map_nil, ite_self, List.append_nil]
    rfl
  | case5 m out stopped =>
    rw [begun_of_faulted stopped, List.map_nil, ite_self, List.append_nil]

/-- One that writes them to its journal has them there in front of the end of the run. -/
theorem journal_run (m : Machine) (out : σ) (alive : m.state.status ≠ .faulted) :
    (m.run out).machine.journal.toList =
      (m.journal.toList ++
        if m.config.logRows then (m.begun out).map beginning else []) ++
      [ending (m.run out)] := by
  fun_induction run m out with
  | case1 m out running below next fault stepped =>
    rw [begun_of_step_error running below stepped]
    show next.machine.journal.toList = _
    rw [journal_step_error running stepped, Array.toList_push, journal_record]
    rfl
  | case2 m out running below next status stepped ih =>
    rw [ih (alive_of_step running stepped), begun_of_step_ok running below stepped, journal_step_ok running stepped,
      (counted_of_step running stepped).2, journal_record,
      append_perCycle m.config.logRows beginning]
  | case3 m out running reached =>
    rw [begun_of_overdue (UInt64.not_lt.mp reached), List.map_nil, ite_self, List.append_nil]
    exact Array.toList_push
  | case4 m out reason stopped =>
    rw [begun_of_halted stopped, List.map_nil, ite_self, List.append_nil]
    exact Array.toList_push
  | case5 m out stopped => exact absurd stopped alive

/-- Every cycle that began was counted, but for the one that faulted. -/
theorem length_begun (m : Machine) (out : σ) (alive : m.state.status ≠ .faulted) :
    m.state.cycles.toNat + (m.begun out).length = (m.run out).machine.state.cycles.toNat +
      if (m.run out).answer.isOk then 0 else 1 := by
  fun_induction run m out with
  | case1 m out running below next fault stepped =>
    have same : next.machine.state.cycles = m.state.cycles := (faulted_of_step running stepped).2
    rw [begun_of_step_error running below stepped]
    show _ = next.machine.state.cycles.toNat + 1
    rw [same]
    rfl
  | case2 m out running below next status stepped ih =>
    have counted : next.machine.state.cycles.toNat = m.state.cycles.toNat + 1 := by
      rw [(counted_of_step running stepped).1, toNat_succ_of_lt below]
    rw [← ih (alive_of_step running stepped), counted, begun_of_step_ok running below stepped,
      List.length_cons, Nat.add_right_comm]
    rfl
  | case3 m out running reached =>
    rw [begun_of_overdue (UInt64.not_lt.mp reached)]
    rfl
  | case4 m out reason stopped =>
    rw [begun_of_halted stopped]
    rfl
  | case5 m out stopped => exact absurd stopped alive

end Begun

/-! ## What was printed -/

section Values
variable {m : Machine} {out : Printed}

/-- A step prints what the state in which it begins says. -/
theorem values_step (running : m.state.status = .running) (out : Printed) :
    (m.step out).sink.values.toList = out.values.toList ++ m.state.printed?.toList := by
  obtain ⟨prints, other⟩ := sink_step running out
  by_cases print : ∃ rs, m.fetch = .ok (.prn rs)
  · obtain ⟨rs, fetched⟩ := print
    have value : m.state.printed? = some (m.state.get rs) := by
      have decoded := fetch_eq_ok_iff.mp fetched
      rw [ahead] at decoded
      simp only [State.printed?, decoded]
    rw [prints rs fetched, value]
    exact Array.toList_push
  · have value : m.state.printed? = none := by
      unfold State.printed?
      split
      · next rs decoded => exact absurd ⟨rs, fetch_eq_ok_iff.mpr decoded⟩ print
      · rfl
    rw [other (not_exists.mp print), value]
    exact (List.append_nil _).symm

/-- A run prints the values of its cycles, one after the other. -/
theorem values_run (m : Machine) (out : Printed) :
    (m.run out).sink.values.toList =
      out.values.toList ++ (m.begun out).filterMap State.printed? := by
  fun_induction run m out with
  | case1 m out running below next fault stepped =>
    rw [begun_of_step_error running below stepped]
    show next.sink.values.toList = _
    rw [values_step running, List.filterMap_cons]
    cases m.state.printed? <;> rfl
  | case2 m out running below next status stepped ih =>
    rw [ih, begun_of_step_ok running below stepped, values_step running, List.append_assoc,
      List.filterMap_cons]
    cases m.state.printed? <;> rfl
  | case3 m out running reached =>
    rw [begun_of_overdue (UInt64.not_lt.mp reached)]
    exact (List.append_nil _).symm
  | case4 m out reason stopped =>
    rw [begun_of_halted stopped]
    exact (List.append_nil _).symm
  | case5 m out stopped =>
    rw [begun_of_faulted stopped]
    exact (List.append_nil _).symm

end Values

end Machine

end ByteMachine
