import ByteMachine.Proofs.Command.FileName
import ByteMachine.Proofs.Command.Session

/-
  Asking for a trace. A traced run records more than an untraced one, and records have no
  part in what a machine computes (`Image.result_recording`). So the two come to the same,
  and what they show differs by the rows alone, which are those that a machine told to
  keep its rows has kept.
-/

namespace ByteMachine.Command

/-- The options with a trace asked for or not. -/
def RunOptions.tracing (o : RunOptions) (trace : Bool) : RunOptions := { o with trace := trace }

section Twins
variable (options : RunOptions) (trace : Bool) (image : Image)

theorem states_tracing : (options.tracing trace).states image = options.states image :=
  (image.twin_fresh options.config trace options.config.keepRows).begun Printed.empty

theorem outcome_tracing :
    Machine.SameWork (options.outcome image) ((options.tracing trace).outcome image) :=
  (image.twin_fresh options.config trace options.config.keepRows).run Printed.empty

theorem failureOf_tracing (file : String) :
    failureOf file ((options.tracing trace).outcome image) =
      failureOf file (options.outcome image) := by
  rw [failureOf, (outcome_tracing options trace image).answer, failureOf]

theorem endNotices_tracing :
    endNotices ((options.tracing trace).outcome image) = endNotices (options.outcome image) := by
  have same := outcome_tracing options trace image
  rw [endNotices, Machine.ending, same.answer, same.machine.state, endNotices, Machine.ending]

theorem rowLines_tracing (states : List State) :
    (options.tracing trace).rowLines states = if trace then states.map rowLine else [] := rfl

end Twins

/-! ## The rows of a file -/

/-- The rows that a machine keeps which runs the program in the file. -/
def rowsOf (options : RunOptions) (file : String) (content : Except ReadError String) :
    List TraceRow :=
  match prepare file (readProgram file) content with
  | (_, .ok image) => image.rowsKept (options.config.recording false true) Printed.empty
  | (_, .error _) => []

/-- They belong to the states in which the cycles of a run begin. -/
theorem rowsOf_eq (options : RunOptions) (file : String) (content : Except ReadError String) :
    rowsOf options file content =
      match startUp file content with
      | (_, .ok image) => (options.states image).map .ofState
      | (_, .error _) => [] := by
  rw [rowsOf, startUp]
  obtain ⟨notices, made⟩ := prepare file (readProgram file) content
  cases made with
  | error failure => rfl
  | ok image =>
    dsimp only
    rw [Image.rowsKept_recording, if_pos rfl, Image.rowsBegun]
    by_cases fits : image.size ≤ capacity
    · rw [if_pos fits, if_pos fits]
      rfl
    · rw [if_neg fits, if_neg fits]

theorem length_rowsKept {σ : Type} [Sink σ] {image : Image} {config : Config} {out : σ}
    {r : Result σ} (comes : image.result config out = .ok r) (logRows : Bool) :
    (image.rowsKept (config.recording logRows true) out).length =
      r.state.cycles.toNat + if r.answer.isOk then 0 else 1 := by
  rw [Image.rowsKept_recording, if_pos rfl, Image.rowsBegun]
  rw [Image.result, Image.ofImage_eq] at comes
  split at comes
  · next fits =>
    cases comes
    have counted := Machine.length_begun (image.fresh config) out (image.alive_fresh config)
    rw [if_pos fits, List.length_map]
    exact (Nat.zero_add _).symm.trans counted
  · cases comes

/-! ## Traced and untraced runs -/

/-- The run with a trace does what the run without one does, and shows the rows besides, behind what
both show before the first cycle. -/
structure TracedAlike (options : RunOptions) (file : String) (content : Except ReadError String)
    (setting : Option String) (traced untraced : Request) : Prop where
  exitCode : (traced.perform content).exitCode = (untraced.perform content).exitCode
  output : (traced.perform content).output = (untraced.perform content).output
  errorLines : ∃ before after,
    before = (Filter.ofSetting setting).lines (startUp file content).1 ∧
    (untraced.perform content).errorLines (untraced.filter setting) = before ++ after ∧
    (traced.perform content).errorLines (traced.filter setting) =
      before ++ (rowsOf options file content).map (fun row => "TRACE " ++ row.text) ++ after

theorem tracedAlike {setting : Option String} (plain : (Filter.ofSetting setting).Plain)
    (options : RunOptions) (file : String) (content : Except ReadError String) :
    TracedAlike options file content setting (.run (options.tracing true) file)
      (.run (options.tracing false) file) := by
  have rows := rowsOf_eq options file content
  have shown := fun trace => errorLines_run plain (options.tracing trace) file content
  have does := fun trace => perform_run (options.tracing trace) file content
  generalize started : startUp file content = begun at rows shown does
  obtain ⟨notices, made⟩ := begun
  cases made with
  | error failure =>
    refine ⟨by rw [does, does], by rw [does, does], _, failureLines (some failure), rfl, ?_, ?_⟩
    · rw [shown, started]
    · rw [shown, started, rows]
      simp
  | ok image =>
    refine ⟨?_, ?_, _, (Filter.ofSetting setting).lines (endNotices (options.outcome image)) ++
      failureLines (failureOf file (options.outcome image)), rfl, ?_, ?_⟩
    · simp only [does, Session.exitCode, failureOf_tracing]
    · simp only [does, states_tracing]
    · rw [shown, started]
      simp [failureOf_tracing, endNotices_tracing, rowLines_tracing]
    · rw [shown, started, rows]
      simp [failureOf_tracing, endNotices_tracing, rowLines_tracing, states_tracing, rowLine]

/-- Whether rows are written or kept has no influence on what the run of an image comes to, and the
kept rows are the same wherever any are: one for each counted cycle and one for a cycle that faults.
So it is with a run of the program in a file, whatever is in the file: asked for a trace, it shows
these rows as well and is the same in all else. -/
theorem tracing_is_transparent :
    (∀ (σ : Type) [Sink σ] (image : Image) (config : Config) (out : σ) (logRows keepRows : Bool),
      image.result (config.recording logRows keepRows) out = image.result config out ∧
      image.rowsKept (config.recording logRows keepRows) out =
        (if keepRows then image.rowsKept (config.recording false true) out else []) ∧
      ∀ r, image.result config out = .ok r →
        (image.rowsKept (config.recording logRows true) out).length =
          r.state.cycles.toNat + if r.answer.isOk then 0 else 1) ∧
    ∀ setting, Filter.Bare setting → ∀ options file content,
      TracedAlike options file content setting (.run (options.tracing true) file)
        (.run (options.tracing false) file) := by
  refine ⟨?_, fun setting bare options file content => tracedAlike bare.plain options file content⟩
  intro σ _ image config out logRows keepRows
  refine ⟨image.result_recording config logRows keepRows out, ?_,
    fun r comes => length_rowsKept comes logRows⟩
  rw [Image.rowsKept_recording, Image.rowsKept_recording, if_pos rfl]

/-- The cycle behind the print faults on a byte that is no opcode. Its row is shown all the same. -/
theorem tracing_is_transparent_print_and_stray :
    let options : RunOptions := ⟨false, 3, 0xF4⟩
    let image : Image := ⟨[0x47, 0x00, 0x02]⟩
    let content : Except ReadError String := .ok "1000111\n0 # R0\n10"
    Filter.Bare (some "debug") ∧
    (∃ r, image.result options.config Printed.empty = .ok r ∧ r.state.cycles = 1 ∧
      (image.rowsKept (options.config.recording true true) Printed.empty).length = 2 ∧
      r.answer.isOk = false) ∧
    (rowsOf options "p.ls8" content).map TraceRow.text =
      ["00 | 47 00 02 | 00 00 00 00 00 00 00 F4", "02 | 02 00 00 | 00 00 00 00 00 00 00 F4"] ∧
    TracedAlike options "p.ls8" content (some "debug") (.run (options.tracing true) "p.ls8")
      (.run (options.tracing false) "p.ls8") := by
  intro options image content
  have bare : Filter.Bare (some "debug") := .threshold (t := some .debug) (by decide +kernel)
  obtain ⟨library, shown⟩ := tracing_is_transparent
  obtain ⟨-, kept, count⟩ := library Printed image options.config Printed.empty true true
  have texts : (image.rowsBegun options.config Printed.empty).map TraceRow.text =
      ["00 | 47 00 02 | 00 00 00 00 00 00 00 F4",
        "02 | 02 00 00 | 00 00 00 00 00 00 00 F4"] := by decide +kernel
  have rows : image.rowsKept (options.config.recording false true) Printed.empty =
      image.rowsBegun options.config Printed.empty := image.rowsKept_recording _ false true _
  have two : (image.rowsKept (options.config.recording true true) Printed.empty).length = 2 := by
    rw [kept, if_pos rfl, rows, ← List.length_map TraceRow.text, texts]
    rfl
  have cycles : (options.outcome image).machine.state.cycles = 1 := by
    rw [RunOptions.outcome, (Machine.settled_after_of_run _ _).1]
    decide +kernel
  refine ⟨bare, ⟨(options.outcome image).result, rfl, cycles, two, ?_⟩, ?_, shown _ bare _ _ _⟩
  · have counted := count (options.outcome image).result rfl
    rw [two, show (options.outcome image).result.state.cycles = 1 from cycles] at counted
    cases answered : (options.outcome image).result.answer.isOk with
    | true =>
      rw [answered] at counted
      cases counted
    | false => rfl
  · have read : Image.ofBinaryText "1000111\n0 # R0\n10" = .ok image := by cbv
    have binary : isSource "p.ls8" = false := isSource_append_ls8 "p"
    rw [rowsOf, prepare, readProgram, binary, if_neg Bool.false_ne_true, readBinaryText, read]
    dsimp only
    rw [rows, texts]

end ByteMachine.Command
