import ByteMachine.Proofs.Machine.Limit
import ByteMachine.Proofs.Machine.Steps
import ByteMachine.Proofs.Text.Lines

/-
  What a machine prints, as text in a buffer of bounded size. Beside it the same
  machine prints into a sink that keeps the values and never fails.

    1. `execute_mapSink`: an instruction looks at its sink only to print, so one that
       prints nothing does the same with any sink.
    2. `run_holding`: where the buffer has room for the text of all values, the two
       runs differ in nothing but the form of what was printed.
    3. `run_overflow`: where it has not, the runs are the same up to the first line
       that ends past the end of the buffer. The buffer keeps the part of that line
       that fits, and the machine faults as it was before the print.
-/

namespace ByteMachine

/-! ## Values as text -/

/-- The values as text, a line for each. -/
def Printed.text (out : Printed) : String := String.join (out.values.toList.map lineOf)

/-- The sink with one more value in it. -/
def Printed.push (out : Printed) (value : UInt8) : Printed := ⟨out.values.push value⟩

/-- The number of bytes of the text. -/
def Printed.size (out : Printed) : Nat := out.text.utf8ByteSize

namespace Printed

theorem toList_text (out : Printed) :
    out.text.toList = out.values.toList.flatMap fun v => (lineOf v).toList := by
  simp [text, String.toList_join, List.flatMap_map]

theorem text_push (out : Printed) (value : UInt8) :
    (out.push value).text = out.text ++ lineOf value := by
  rw [← String.toList_inj, String.toList_append, toList_text, toList_text, push]
  simp

/-- Lines are written in characters of one byte each. -/
theorem utf8Size_of_mem_lineOf {value : UInt8} {c : Char} (h : c ∈ (lineOf value).toList) :
    c.utf8Size = 1 := by
  rw [lineOf, String.toList_append, Nat.toList_repr] at h
  rcases List.mem_append.mp h with h | h
  · obtain ⟨d, small, rfl⟩ := Text.exists_digitChar_of_mem (by decide) h
    have digits : ∀ d < 10, d.digitChar.utf8Size = 1 := by decide
    exact digits d small
  · rw [List.mem_singleton.mp h]
    rfl

theorem size_lineOf (value : UInt8) : (lineOf value).utf8ByteSize = (lineOf value).toList.length :=
  Text.utf8ByteSize_eq_length fun _ => utf8Size_of_mem_lineOf

theorem size_push (out : Printed) (value : UInt8) :
    (out.push value).size = out.size + (lineOf value).toList.length := by
  rw [size, text_push, String.utf8ByteSize_append, size_lineOf, size]

/-- More values have the text of the earlier ones in front. -/
theorem exists_text_of_values {out later : Printed}
    (h : out.values.toList <+: later.values.toList) : ∃ rest, later.text = out.text ++ rest := by
  obtain ⟨more, same⟩ := h
  refine ⟨String.ofList (more.flatMap fun v => (lineOf v).toList), ?_⟩
  rw [← String.toList_inj, String.toList_append, toList_text, toList_text, ← same]
  simp

theorem size_le_of_values {out later : Printed} (h : out.values.toList <+: later.values.toList) :
    out.size ≤ later.size := by
  obtain ⟨rest, same⟩ := exists_text_of_values h
  rw [size, size, same, String.utf8ByteSize_append]
  omega

end Printed

/-! ## Buffers -/

namespace LineBuffer

/-- The buffer with the text of the values in it. -/
def holding (n : Nat) (out : Printed) : LineBuffer := ⟨n, out.text⟩

variable {n : Nat} {out : Printed} {value : UInt8}

theorem room_holding (n : Nat) (out : Printed) : (holding n out).room = n - out.size := rfl

/-- A line for which there is room is kept. -/
theorem write_of_fits (fits : (out.push value).size ≤ n) :
    Sink.write (holding n out) value = (holding n (out.push value), none) := by
  rw [Printed.size_push] at fits
  have enough : (lineOf value).length ≤ (holding n out).room := by
    rw [room_holding, ← String.length_toList]
    omega
  have whole : (lineOf value).toList.take (holding n out).room = (lineOf value).toList :=
    List.take_of_length_le (by rw [String.length_toList]; exact enough)
  show ((holding n out).append (lineOf value), _) = _
  rw [if_pos enough, append, whole, String.ofList_toList, holding, holding, Printed.text_push]

/-- Of a line for which there is none, what fits is kept, and the buffer is full. -/
theorem write_of_overflow (before : out.size ≤ n) (past : n < (out.push value).size) :
    ∃ cut : LineBuffer, Sink.write (holding n out) value = (cut, some .full) ∧
      cut.text.utf8ByteSize = n ∧ ∃ rest, (out.push value).text = cut.text ++ rest := by
  rw [Printed.size_push] at past
  have less : ¬ (lineOf value).length ≤ (holding n out).room := by
    rw [room_holding, ← String.length_toList]
    omega
  let kept := (lineOf value).toList.take (n - out.size)
  let lost := (lineOf value).toList.drop (n - out.size)
  have split : lineOf value = String.ofList kept ++ String.ofList lost := by
    rw [← String.toList_inj]
    simp [kept, lost]
  have size : (String.ofList kept).utf8ByteSize = n - out.size := by
    have single : ∀ c ∈ (String.ofList kept).toList, c.utf8Size = 1 := by
      intro c hc
      rw [String.toList_ofList] at hc
      exact Printed.utf8Size_of_mem_lineOf (List.mem_of_mem_take hc)
    rw [Text.utf8ByteSize_eq_length single, String.toList_ofList, List.length_take]
    omega
  refine ⟨⟨n, out.text ++ String.ofList kept⟩, ?_, ?_, String.ofList lost, ?_⟩
  · show ((holding n out).append (lineOf value), _) = _
    rw [if_neg less]
    rfl
  · show (out.text ++ String.ofList kept).utf8ByteSize = n
    rw [String.utf8ByteSize_append, size]
    show out.size + (n - out.size) = n
    omega
  · rw [Printed.text_push, split, String.append_assoc]

end LineBuffer

/-! ## Other sinks -/

section Sinks
variable {σ τ : Type}

/-- The effect with what is in the sink put into another. -/
def Effect.mapSink (f : σ → τ) (e : Effect σ) : Effect τ := ⟨e.state, f e.sink, e.fault⟩

/-- The outcome with what is in the sink put into another. -/
def Outcome.mapSink {α : Type} (f : σ → τ) (o : Outcome σ α) : Outcome τ α :=
  ⟨o.machine, f o.sink, o.answer⟩

theorem Instruction.advance_mapSink (f : σ → τ) (i : Instruction) (s : State) (out : σ) :
    i.advance s (f out) = (i.advance s out).mapSink f := by
  rw [Instruction.advance_eq, Instruction.advance_eq]
  rfl

variable [Sink σ] [Sink τ] {f : σ → τ} {m : Machine} {out : σ}

/-- Where the sinks take the printed value alike, an instruction does the same with both. -/
theorem execute_mapSink (i : Instruction) (s : State) (out : σ)
    (alike : ∀ rs, i = .prn rs →
      Sink.write (f out) (s.get rs) = (f (Sink.write out (s.get rs)).1, (Sink.write out (s.get rs)).2)) :
    i.execute s (f out) = (i.execute s out).mapSink f := by
  cases i with
  | hlt => rfl
  | ldi rd imm => exact Instruction.advance_mapSink f (.ldi rd imm) (s.set rd imm) out
  | alu op ra rb => exact Instruction.advance_mapSink f (.alu op ra rb) _ out
  | prn rs =>
    simp only [Instruction.execute, alike rs rfl]
    cases Sink.write out (s.get rs) with
    | mk after error =>
      cases error with
      | none => exact Instruction.advance_mapSink f (.prn rs) s after
      | some cause => rfl
  | push rs =>
    simp only [Instruction.execute]
    cases s.push fun lowered => lowered.get rs with
    | none => rfl
    | some pushed => exact Instruction.advance_mapSink f (.push rs) pushed out
  | pop rd =>
    simp only [Instruction.execute]
    cases (s.set rd s.top).raise with
    | none => rfl
    | some raised => exact Instruction.advance_mapSink f (.pop rd) raised out
  | call rs =>
    simp only [Instruction.execute]
    split
    · cases s.push fun _ => s.pc + 2 <;> rfl
    · rfl
  | ret =>
    simp only [Instruction.execute]
    cases State.raise { s with pc := s.top } <;> rfl

/-- So does a step of a machine. -/
theorem Machine.step_mapSink (running : m.state.status = .running)
    (alike : ∀ rs, m.fetch = .ok (.prn rs) → Sink.write (f out) (m.state.get rs) =
      (f (Sink.write out (m.state.get rs)).1, (Sink.write out (m.state.get rs)).2)) :
    m.step (f out) = (m.step out).mapSink f := by
  have executed : ∀ {i : Instruction}, m.fetch = .ok i →
      i.execute m.state (f out) = (i.execute m.state out).mapSink f := by
    intro i fetched
    apply execute_mapSink
    rintro rs rfl
    exact alike rs fetched
  cases stepEnd_of_running running out with
  | unread fault fetched same =>
    rw [same, step_of_fetch_error running fetched]
    rfl
  | failed i fault fetched wrong same =>
    have both := executed fetched
    have wrong' : (i.execute m.state (f out)).fault = some fault := by rw [both]; exact wrong
    rw [same, step_of_execute_fault running fetched wrong', both]
    rfl
  | counted i fetched ok same =>
    have both := executed fetched
    have ok' : (i.execute m.state (f out)).fault = none := by rw [both]; exact ok
    rw [same, step_of_execute_ok running fetched ok', both]
    rfl

end Sinks

/-! ## Steps -/

namespace Machine

variable {n : Nat} {m : Machine} {out : Printed}

open LineBuffer (holding)

theorem sink_execute_prn (rs : Register) (s : State) (out : Printed) :
    ((Instruction.prn rs).execute s out).sink = out.push (s.get rs) :=
  Instruction.sink_advance (.prn rs) s (out.push (s.get rs))

/-- A step either prints nothing or prints the value of a register, also if it faults. -/
theorem sink_step (running : m.state.status = .running) (out : Printed) :
    (∀ rs, m.fetch = .ok (.prn rs) → (m.step out).sink = out.push (m.state.get rs)) ∧
      ((∀ rs, m.fetch ≠ .ok (.prn rs)) → (m.step out).sink = out) := by
  have kept : ∀ {i : Instruction}, (∀ rs, i ≠ .prn rs) → (i.execute m.state out).sink = out :=
    fun other => (execute_frame _ m.state out).2.resolve_left fun ⟨rs, same⟩ => other rs same
  cases stepEnd_of_running running out with
  | unread fault fetched same =>
    rw [same]
    refine ⟨?_, fun _ => rfl⟩
    intro rs prints
    rw [fetched] at prints
    cases prints
  | failed i fault fetched wrong same | counted i fetched ok same =>
    rw [same]
    constructor
    · intro rs prints
      rw [fetched] at prints
      cases prints
      exact sink_execute_prn rs m.state out
    · intro other
      apply kept
      rintro rs rfl
      exact other rs fetched

/-- A step that prints no more than there is room for does the same with the buffer. -/
theorem step_holding (running : m.state.status = .running) (fits : (m.step out).sink.size ≤ n) :
    m.step (holding n out) = (m.step out).mapSink (holding n) := by
  apply step_mapSink running
  intro rs prints
  rw [(sink_step running out).1 rs prints] at fits
  exact LineBuffer.write_of_fits fits

/-- A print for which there is no room changes nothing but the status. -/
theorem step_overflow (running : m.state.status = .running) (before : out.size ≤ n)
    (past : n < (m.step out).sink.size) :
    ∃ rs cut, m.fetch = .ok (.prn rs) ∧ (m.step out).sink = out.push (m.state.get rs) ∧
      m.step (holding n out) = ⟨m.record.fail (.output .full), cut, .error (.output .full)⟩ ∧
      cut.text.utf8ByteSize = n ∧ ∃ rest, (m.step out).sink.text = cut.text ++ rest := by
  obtain ⟨prints, other⟩ := sink_step running out
  by_cases print : ∃ rs, m.fetch = .ok (.prn rs)
  · obtain ⟨rs, fetched⟩ := print
    have sink := prints rs fetched
    rw [sink] at past ⊢
    obtain ⟨cut, written, size, rest⟩ := LineBuffer.write_of_overflow before past
    have effect : (Instruction.prn rs).execute m.state (holding n out) =
        ⟨m.state, cut, some (.output .full)⟩ := by
      simp only [Instruction.execute, written]
    have stepped := step_of_execute_fault running fetched
      (show ((Instruction.prn rs).execute m.state (holding n out)).fault = some (.output .full) by
        rw [effect])
    rw [effect] at stepped
    exact ⟨rs, cut, fetched, rfl, stepped, size, rest⟩
  · rw [other (not_exists.mp print)] at past
    omega

/-! ## Runs -/

/-- Where there is room for everything, a run does the same with the buffer. -/
theorem run_holding (m : Machine) (out : Printed) (fits : (m.run out).sink.size ≤ n) :
    m.run (holding n out) = (m.run out).mapSink (holding n) := by
  fun_induction run m out with
  | case1 m out running below next fault stepped =>
    have same := step_holding running fits
    have stepped' : (m.step (holding n out)).answer = .error fault := by rw [same]; exact stepped
    rw [run_of_step_error running below stepped', same]
    rfl
  | case2 m out running below next status stepped ih =>
    -- What the step printed is part of what the whole run printed.
    have room : (m.step out).sink.size ≤ n :=
      Nat.le_trans (Printed.size_le_of_values (extends_run next.machine next.sink).values) fits
    have same := step_holding running room
    have stepped' : (m.step (holding n out)).answer = .ok status := by rw [same]; exact stepped
    rw [run_of_step_ok running below stepped', same]
    exact ih fits
  | case3 m out running reached => exact run_of_overdue running (UInt64.not_lt.mp reached)
  | case4 m out reason stopped => exact run_of_halted stopped
  | case5 m out stopped => exact run_of_faulted stopped

/-- How a run ends whose values have more text than the buffer can hold. -/
structure CutAt (n : Nat) (m : Machine) (out : Printed) (whole : Outcome Printed HaltReason)
    (bounded : Outcome LineBuffer HaltReason) : Prop where
  answer : bounded.answer = .error (.output .full)
  /-- The buffer holds the first `n` bytes of the text of all values. -/
  text : ∃ rest, whole.sink.text = bounded.sink.text ++ rest
  size : bounded.sink.text.utf8ByteSize = n
  /-- The whole run comes to a print whose line ends past byte `n`, the first such line. With the
  buffer the machine is left as it was before this print, faulted and with the print on record. -/
  before : ∃ is last sink rs, Path m out is last sink ∧ whole = last.run sink ∧
    last.state.status = .running ∧ last.fetch = .ok (.prn rs) ∧
    sink.size ≤ n ∧ n < (sink.push (last.state.get rs)).size ∧
    bounded.machine.state = { last.state with status := .faulted } ∧
    bounded.machine = last.record.fail (.output .full)

/-- What a cut run has in front of it is one more step of the path. -/
theorem CutAt.cons {status : Status} {whole : Outcome Printed HaltReason}
    {bounded : Outcome LineBuffer HaltReason} (running : m.state.status = .running)
    (stepped : (m.step out).answer = .ok status)
    (cut : CutAt n (m.step out).machine (m.step out).sink whole bounded) :
    CutAt n m out whole bounded := by
  obtain ⟨is, last, sink, rs, path, rest⟩ := cut.before
  obtain ⟨i, fetched, -, -⟩ := exists_counted_of_step running stepped
  exact ⟨cut.answer, cut.text, cut.size,
    i :: is, last, sink, rs, .cons running fetched stepped path, rest⟩

/-- What a step below the limit printed is part of what the run printed. -/
theorem values_step_run (running : m.state.status = .running)
    (below : m.state.cycles < m.config.maxCycles) (out : Printed) :
    (m.step out).sink.values.toList <+: (m.run out).sink.values.toList := by
  cases stepped : (m.step out).answer with
  | error fault =>
    have same : (m.run out).sink = (m.step out).sink := by
      rw [run_of_step_error running below stepped]
    exact same ▸ List.prefix_rfl
  | ok status =>
    rw [run_of_step_ok running below stepped]
    exact (extends_run (m.step out).machine (m.step out).sink).values

/-- The buffer may be too small for the first print already. -/
theorem cutAt_of_step (running : m.state.status = .running)
    (below : m.state.cycles < m.config.maxCycles) (before : out.size ≤ n)
    (past : n < (m.step out).sink.size) :
    CutAt n m out (m.run out) (m.run (holding n out)) := by
  obtain ⟨rs, cut, fetched, sink, same, size, rest, kept⟩ := step_overflow running before past
  have stepped : (m.step (holding n out)).answer = .error (.output .full) := by rw [same]
  obtain ⟨more, grown⟩ := Printed.exists_text_of_values (values_step_run running below out)
  have text : (m.run out).sink.text = cut.text ++ (rest ++ more) := by
    rw [grown, kept, String.append_assoc]
  rw [sink] at past
  rw [run_of_step_error running below stepped, same]
  exact ⟨rfl, ⟨_, text⟩, size,
    [], m, out, rs, .nil m out, rfl, running, fetched, before, past, rfl, rfl⟩

theorem run_overflow (m : Machine) (out : Printed) (before : out.size ≤ n)
    (past : n < (m.run out).sink.size) :
    CutAt n m out (m.run out) (m.run (holding n out)) := by
  fun_induction run m out with
  | case1 m out running below next fault stepped =>
    have cut := cutAt_of_step running below before past
    rwa [run_of_step_error running below stepped] at cut
  | case2 m out running below next status stepped ih =>
    by_cases room : (m.step out).sink.size ≤ n
    · -- The step does the same with both sinks, and the line is cut off in a later one.
      have same := step_holding running room
      have stepped' : (m.step (holding n out)).answer = .ok status := by rw [same]; exact stepped
      rw [run_of_step_ok running below stepped', same]
      exact (ih room past).cons running stepped
    · have cut := cutAt_of_step running below before (Nat.lt_of_not_le room)
      rwa [run_of_step_ok running below stepped] at cut
  | case3 m out running reached => exact absurd past (Nat.not_lt.mpr before)
  | case4 m out reason stopped => exact absurd past (Nat.not_lt.mpr before)
  | case5 m out stopped => exact absurd past (Nat.not_lt.mpr before)

/-- A buffer that can hold the text of all printed values holds it in the end, and the run into it
is otherwise the run that keeps the values. Any smaller one holds as much of the text as it can,
and the machine faults before the first print whose line it cannot hold, which is not counted. -/
theorem bounded_text_of_values (m : Machine) (n : Nat) :
    let whole := m.run Printed.empty
    let bounded := m.run (LineBuffer.empty n)
    (whole.sink.text.utf8ByteSize ≤ n →
      bounded.answer = whole.answer ∧ bounded.machine = whole.machine ∧
      bounded.sink.text = whole.sink.text) ∧
    (n < whole.sink.text.utf8ByteSize → CutAt n m Printed.empty whole bounded) := by
  intro whole bounded
  constructor
  · intro fits
    have same : bounded = whole.mapSink (holding n) := run_holding m Printed.empty fits
    rw [same]
    exact ⟨rfl, rfl, rfl⟩
  · intro past
    exact run_overflow m Printed.empty (Nat.zero_le n) past

/-- A machine with room for one cycle, in which it prints its stack pointer, 255. -/
def printOnce : Machine :=
  { initial { maxCycles := 1 } with
    state := { State.initial defaultStackTop with
      registers := Registers.zero.set .sp 255
      memory := (Memory.zero.write 0 0x47).write 1 Register.sp.byte } }

/-- The text has four bytes. In a buffer of two the number is cut off behind its second digit. -/
theorem bounded_text_of_values_inside_number :
    (printOnce.run Printed.empty).sink.text = "255\n" ∧
    (printOnce.run (LineBuffer.empty 4)).sink.text = "255\n" ∧
    (printOnce.run (LineBuffer.empty 2)).sink.text = "25" ∧
    (printOnce.run (LineBuffer.empty 2)).answer = .error (.output .full) ∧
    CutAt 2 printOnce Printed.empty (printOnce.run Printed.empty)
      (printOnce.run (LineBuffer.empty 2)) := by
  have printed : (printOnce.run Printed.empty).sink.text = "255\n" := by
    rw [(settled_after_of_run printOnce Printed.empty).2]
    decide +kernel
  obtain ⟨enough, -⟩ := bounded_text_of_values printOnce 4
  obtain ⟨-, less⟩ := bounded_text_of_values printOnce 2
  obtain ⟨-, -, whole⟩ := enough (by rw [printed]; decide)
  have cut := less (by rw [printed]; decide)
  have short : (printOnce.run (LineBuffer.empty 2)).sink.text = "25" := by
    rw [(settled_after_of_run printOnce (LineBuffer.empty 2)).2]
    decide +kernel
  exact ⟨printed, whole.trans printed, short, cut.answer, cut⟩

end Machine

end ByteMachine
