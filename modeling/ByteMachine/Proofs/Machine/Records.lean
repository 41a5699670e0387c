import ByteMachine.Proofs.Machine.Journal
import ByteMachine.Proofs.Machine.Straight

/-
  Records have no part in what a machine computes. Two machines in the same state and
  with the same limit may be told to record different things, and may have recorded
  different things before:

    1. `Twin.step` and `Twin.run`: they do the same work, step by step and in a run.
    2. `Twin.begun`: so their cycles begin in the same states, and what either of them
       records can be told from the run of the other.
    3. `result_recording` and `rowsKept_recording`: the same for the runs of an image
       under all settings of what to record.
-/

namespace ByteMachine

namespace Machine

variable {σ : Type}

/-! ## Twins -/

/-- The machines differ at most in what they record and have recorded. -/
structure Twin (m n : Machine) : Prop where
  state : n.state = m.state
  limit : n.config.maxCycles = m.config.maxCycles

/-- The same answer and the same sink, with machines that are twins. -/
structure SameWork {α : Type} (first second : Outcome σ α) : Prop where
  answer : second.answer = first.answer
  sink : second.sink = first.sink
  machine : first.machine.Twin second.machine

variable [Sink σ] {m n : Machine}

theorem Twin.status (twin : m.Twin n) : n.state.status = m.state.status := by rw [twin.state]

theorem Twin.below_iff (twin : m.Twin n) :
    n.state.cycles < n.config.maxCycles ↔ m.state.cycles < m.config.maxCycles := by
  rw [twin.state, twin.limit]

theorem Twin.fetch (twin : m.Twin n) : n.fetch = m.fetch := by
  simp only [Machine.fetch, twin.state]

theorem Twin.step (twin : m.Twin n) (running : m.state.status = .running) (out : σ) :
    SameWork (m.step out) (n.step out) := by
  have running' : n.state.status = .running := by rw [twin.state, running]
  cases stepEnd_of_running running out with
  | unread fault fetched same =>
    rw [same, step_of_fetch_error running' (twin.fetch.trans fetched)]
    exact ⟨rfl, rfl, congrArg (fun s : State => { s with status := .faulted }) twin.state, twin.limit⟩
  | failed i fault fetched wrong same =>
    rw [← twin.state] at wrong
    rw [same, step_of_execute_fault running' (twin.fetch.trans fetched) wrong, twin.state]
    exact ⟨rfl, rfl, rfl, twin.limit⟩
  | counted i fetched ok same =>
    rw [← twin.state] at ok
    rw [same, step_of_execute_ok running' (twin.fetch.trans fetched) ok, twin.state]
    exact ⟨rfl, rfl, rfl, twin.limit⟩

/-- Twins begin the same cycles. -/
theorem Twin.begun (twin : m.Twin n) (out : σ) : n.begun out = m.begun out := by
  fun_induction Machine.run m out generalizing n
  case case1 m out running below next fault stepped =>
    have same := twin.step running out
    rw [begun_of_step_error running below stepped,
      begun_of_step_error (twin.status.trans running)
        (twin.below_iff.mpr below) (same.answer.trans stepped), twin.state]
  case case2 m out running below next answer stepped ih =>
    have same := twin.step running out
    rw [begun_of_step_ok running below stepped,
      begun_of_step_ok (twin.status.trans running)
        (twin.below_iff.mpr below) (same.answer.trans stepped),
      twin.state, same.sink, ih same.machine]
  case case3 m out running reached =>
    rw [begun_of_overdue (UInt64.not_lt.mp reached),
      begun_of_overdue (UInt64.not_lt.mp (mt twin.below_iff.mp reached))]
  case case4 m out reason stopped =>
    rw [begun_of_halted stopped, begun_of_halted (twin.status.trans stopped)]
  case case5 m out stopped =>
    rw [begun_of_faulted stopped, begun_of_faulted (twin.status.trans stopped)]

/-- Twins come to the same. -/
theorem Twin.run (twin : m.Twin n) (out : σ) : SameWork (m.run out) (n.run out) := by
  fun_induction Machine.run m out generalizing n
  case case1 m out running below next fault stepped =>
    have same := twin.step running out
    rw [run_of_step_error (twin.status.trans running)
      (twin.below_iff.mpr below) (same.answer.trans stepped)]
    exact ⟨rfl, same.sink, same.machine⟩
  case case2 m out running below next answer stepped ih =>
    have same := twin.step running out
    rw [run_of_step_ok (twin.status.trans running)
      (twin.below_iff.mpr below) (same.answer.trans stepped), same.sink]
    exact ih same.machine
  case case3 m out running reached =>
    rw [run_of_overdue (twin.status.trans running)
      (UInt64.not_lt.mp (mt twin.below_iff.mp reached))]
    exact ⟨rfl, rfl, congrArg (fun s : State => { s with status := .halted .cycleLimit }) twin.state,
      twin.limit⟩
  case case4 m out reason stopped =>
    rw [run_of_halted (twin.status.trans stopped)]
    exact ⟨rfl, rfl, twin.state, twin.limit⟩
  case case5 m out stopped =>
    rw [run_of_faulted (twin.status.trans stopped)]
    exact ⟨rfl, rfl, twin⟩

end Machine

/-! ## Runs of an image -/

/-- The settings, with other ones for the records. -/
def Config.recording (c : Config) (logRows keepRows : Bool) : Config :=
  { c with logRows := logRows, keepRows := keepRows }

/-- What a run comes to, apart from its records. -/
structure Result (σ : Type) where
  answer : Except Fault HaltReason
  state : State
  sink : σ

/-- What the outcome is, apart from the records. -/
def Outcome.result {σ : Type} (o : Outcome σ HaltReason) : Result σ :=
  ⟨o.answer, o.machine.state, o.sink⟩

namespace Image

/-- A machine that the image was just loaded into. -/
def fresh (image : Image) (config : Config) : Machine where
  config := config
  state := Machine.loadedState image config
  rows := #[]
  journal := #[.loaded image.size]

theorem ofImage_eq (image : Image) (config : Config) :
    Machine.ofImage image config =
      if image.size ≤ capacity then .ok (image.fresh config)
      else .error (.loadOverflow image.size) := by
  by_cases fits : image.size ≤ capacity
  · have loaded : (Machine.initial config).state.memory.load image =
        some (Memory.zero.overlay image.bytes) := if_pos fits
    rw [if_pos fits, Machine.ofImage, Machine.load, loaded]
    rfl
  · have refused : (Machine.initial config).state.memory.load image = none := if_neg fits
    rw [if_neg fits, Machine.ofImage, Machine.load, refused]

variable {σ : Type} [Sink σ]

/-- What a run of the image comes to, unless the image cannot be loaded. -/
def result (image : Image) (config : Config) (out : σ) : Except Fault (Result σ) := do
  return ((← Machine.ofImage image config).run out).result

/-- The rows that a machine has kept at the end of a run of the image. -/
def rowsKept (image : Image) (config : Config) (out : σ) : List TraceRow :=
  match Machine.ofImage image config with
  | .ok m => (m.run out).machine.rows.toList
  | .error _ => []

/-- The rows of the cycles that begin in a run of the image. -/
def rowsBegun (image : Image) (config : Config) (out : σ) : List TraceRow :=
  if image.size ≤ capacity then ((image.fresh config).begun out).map .ofState else []

theorem alive_fresh (image : Image) (config : Config) :
    (image.fresh config).state.status ≠ .faulted := by
  intro faulted
  cases faulted

theorem twin_fresh (image : Image) (config : Config) (logRows keepRows : Bool) :
    (image.fresh config).Twin (image.fresh (config.recording logRows keepRows)) := ⟨rfl, rfl⟩

theorem result_recording (image : Image) (config : Config) (logRows keepRows : Bool) (out : σ) :
    image.result (config.recording logRows keepRows) out = image.result config out := by
  rw [result, result, ofImage_eq, ofImage_eq]
  split
  · have same := (image.twin_fresh config logRows keepRows).run out
    show Except.ok (Outcome.result _) = Except.ok (Outcome.result _)
    rw [Outcome.result, same.answer, same.machine.state, same.sink]
    rfl
  · rfl

theorem rowsKept_recording (image : Image) (config : Config) (logRows keepRows : Bool) (out : σ) :
    image.rowsKept (config.recording logRows keepRows) out =
      if keepRows then image.rowsBegun config out else [] := by
  rw [rowsKept, ofImage_eq, rowsBegun]
  by_cases fits : image.size ≤ capacity
  · rw [if_pos fits, if_pos fits, ← (image.twin_fresh config logRows keepRows).begun out]
    exact Machine.rows_run _ out
  · rw [if_neg fits, if_neg fits, ite_self]

end Image

end ByteMachine
