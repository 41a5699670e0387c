import ByteMachine.Proofs.Command.FileName
import ByteMachine.Proofs.Command.Session
import ByteMachine.Proofs.Machine.Faults
import ByteMachine.Proofs.Machine.Limit
import ByteMachine.Proofs.Source.Message

/-
  What the run of a file comes to, where there is no setting for what is shown. Reading,
  parsing and loading decide whether a machine is started. If none is, there is one error
  and nothing else. If one is, it prints what its cycles print, to the last one, and

    1. a halt instruction leaves nothing to tell,
    2. the limit is told by one warning, and is no failure,
    3. a fault is told by one warning and the error behind it.

  An error is on one line if the name of the file is, since all else in it is
  (`no_newline_of_startUp`, `oneLine_faultChain`).
-/

namespace ByteMachine.Command

open Text (OneLine)

/-! ## Starting a machine -/

/-- Whether the text describes the image, as source or as binary text, as the name of the file has it. -/
def Describes (file text : String) (image : Image) : Prop :=
  if isSource file then Source.assemble text = .ok image else Image.ofBinaryText text = .ok image

/-- Whether a run of the file begins with the machine: the file can be read and is UTF-8, its text
describes an image that fits the memory, and the machine is a fresh one with that image. -/
def BeginsWith (options : RunOptions) (file : String) (bytes? : Except ReadError ByteArray)
    (m : Machine) : Prop :=
  ∃ bytes text image, bytes? = .ok bytes ∧ String.fromUTF8? bytes = some text ∧
    Describes file text image ∧ image.size ≤ capacity ∧
    Machine.ofImage image options.config = .ok m

section Starting
variable {options : RunOptions} {file text : String} {image : Image} {m : Machine}
  {bytes? : Except ReadError ByteArray}

theorem exists_readProgram_iff :
    (∃ notices, readProgram file text = (notices, .ok image)) ↔ Describes file text image := by
  unfold readProgram Describes
  split
  · unfold assembleText Source.assemble
    cases Source.Assembly.ofSource text with
    | error e => exact iff_of_false nofun nofun
    | ok assembly =>
      rw [ok_bind]
      dsimp only
      cases assembly.image with
      | error e => simp
      | ok other => simp
  · unfold readBinaryText
    cases Image.ofBinaryText text with
    | error e => simp
    | ok other => simp

theorem beginsWith_iff :
    BeginsWith options file bytes? m ↔
      ∃ notices image, startUp file (bytes? >>= textOf) = (notices, .ok image) ∧
        m = image.fresh options.config := by
  constructor
  · rintro ⟨bytes, text, image, found, read, describes, fits, loaded⟩
    obtain ⟨told, made⟩ := exists_readProgram_iff.mpr describes
    have content : bytes? >>= textOf = .ok text :=
      bind_eq_ok_iff.mpr ⟨bytes, found, textOf_eq_ok_iff.mpr read⟩
    rw [Image.ofImage_eq, if_pos fits] at loaded
    cases loaded
    exact ⟨_, image, startUp_eq_ok_iff.mpr ⟨text, told, content, made, fits, rfl⟩, rfl⟩
  · rintro ⟨notices, image, started, rfl⟩
    obtain ⟨text, told, content, made, fits, -⟩ := startUp_eq_ok_iff.mp started
    obtain ⟨bytes, found, read⟩ := bind_eq_ok_iff.mp content
    refine ⟨bytes, text, image, found, textOf_eq_ok_iff.mp read,
      exists_readProgram_iff.mp ⟨told, made⟩, fits, ?_⟩
    rw [Image.ofImage_eq, if_pos fits]

theorem BeginsWith.unique {m' : Machine} (h : BeginsWith options file bytes? m)
    (h' : BeginsWith options file bytes? m') : m' = m := by
  obtain ⟨notices, image, started, rfl⟩ := beginsWith_iff.mp h
  obtain ⟨_, _, started', rfl⟩ := beginsWith_iff.mp h'
  rw [started] at started'
  cases started'
  rfl

end Starting

/-! ## Errors on one line -/

theorem oneLine_faultChain {fault : Fault} (h : fault.OfCycle) : OneLine (faultChain fault).toList := by
  have message := h.oneLine_message
  cases fault with
  | violation cause => rcases h with h | ⟨_, h⟩ <;> cases h
  | output cause =>
    cases cause
    exact Text.oneLine_add.mpr ⟨Text.oneLine_add.mpr ⟨message, by decide⟩, by decide⟩
  | _ => exact message

theorem oneLine_sourceChain {e : Source.SourceError} (h : e.Unbroken) :
    OneLine (sourceChain e).toList := by
  have message := h.oneLine_message
  cases e with
  | violation cause =>
    exact Text.oneLine_add.mpr ⟨Text.oneLine_add.mpr ⟨message, by decide⟩, h⟩
  | _ => exact message

/-- No program is refused in words of more than one line. -/
theorem oneLine_of_readProgram {file text problem : String} {notices : List Notice}
    (refused : readProgram file text = (notices, .error problem)) : OneLine problem.toList := by
  unfold readProgram at refused
  split at refused
  · have source := Source.Assembly.legible_ofSource text
    unfold assembleText at refused
    split at refused
    · next e wrong =>
      rw [wrong] at source
      cases refused
      exact oneLine_sourceChain source
    · next assembly _ =>
      have large := assembly.legible_image
      cases made : assembly.image with
      | ok image =>
        rw [made] at refused
        cases refused
      | error e =>
        rw [made] at large refused
        cases refused
        exact oneLine_sourceChain large
  · unfold readBinaryText at refused
    split at refused
    · next e wrong =>
      cases refused
      show OneLine ("Invalid binary literal at line " ++ Nat.repr e.line ++ ": "
        ++ Text.quote e.text).toList
      simp only [Text.oneLine_add, Text.oneLine_repr, Text.oneLine_quote, and_true]
      decide
    · cases refused

/-- Whether the system refuses to read the file, if it does, in words without a newline. -/
def Spoken (bytes? : Except ReadError ByteArray) : Prop :=
  ∀ details code, bytes? = .error (.system details code) → '\n' ∉ details.toList

theorem spoken_ok (bytes : ByteArray) : Spoken (.ok bytes) := by
  intro details code refused
  cases refused

section Words
variable {file : String} {bytes? : Except ReadError ByteArray}

theorem no_newline_readError (spoken : Spoken bytes?) {e : ReadError}
    (h : bytes? >>= textOf = .error e) : '\n' ∉ e.message.toList := by
  cases e with
  | system details code =>
    have own : '\n' ∉ details.toList := by
      obtain h | ⟨bytes, -, h⟩ := bind_eq_error_iff.mp h
      · exact spoken details code h
      · unfold textOf at h
        split at h <;> cases h
    show '\n' ∉ (details ++ " (os error " ++ Nat.repr code ++ ")").toList
    simp only [Text.no_newline_add, own, (Text.oneLine_repr code).no_newline, not_false_eq_true, true_and,
      and_true]
    decide
  | _ => decide

/-- What keeps a run from its beginning is told without a newline if the name of the file has none. -/
theorem no_newline_of_startUp (flat : '\n' ∉ file.toList) (spoken : Spoken bytes?)
    {notices : List Notice} {failure : String}
    (h : startUp file (bytes? >>= textOf) = (notices, .error failure)) : '\n' ∉ failure.toList := by
  have about : ∀ {before behind : String}, '\n' ∉ before.toList → '\n' ∉ behind.toList →
      '\n' ∉ (before ++ file ++ ": " ++ behind).toList := by
    intro before behind hb hb'
    simp only [Text.no_newline_add, flat, hb, hb', not_false_eq_true, true_and, and_true]
    decide
  unfold startUp prepare at h
  split at h
  · next refused =>
    cases h
    split at refused
    · next e unread =>
      cases refused
      exact about (by decide) (no_newline_readError spoken unread)
    · split at refused
      · next problem wrong =>
        cases refused
        exact about (by decide) (oneLine_of_readProgram wrong).no_newline
      · cases refused
  · split at h
    · cases h
    · cases h
      refine about (by decide) ?_
      show '\n' ∉ ("Load overflow: program is " ++ Nat.repr _ ++ " bytes, memory holds "
        ++ Nat.repr capacity).toList
      simp only [Text.no_newline_add, (Text.oneLine_repr _).no_newline, not_false_eq_true, and_true]
      decide

/-- So is a fault in the run. -/
theorem no_newline_failureOf (flat : '\n' ∉ file.toList) {options : RunOptions} {image : Image}
    {words : String} (h : failureOf file (options.outcome image) = some words) :
    '\n' ∉ words.toList := by
  unfold failureOf at h
  split at h
  · next fault faulted =>
    cases h
    have cause := oneLine_faultChain (Machine.ofCycle_run (image.alive_fresh options.config) faulted)
    simp only [Text.no_newline_add, flat, cause.no_newline, not_false_eq_true, and_true]
    decide
  · cases h

end Words

/-! ## The end of a run in words -/

/-- A warning as a line. -/
def warningLine (words : String) : String := " WARN " ++ words

theorem lines_warning {n : Notice} (warn : n.level = .warn) :
    (Filter.ofSetting none).lines [n] = [warningLine n.text] := by
  have shown : (Filter.ofSetting none).shows n = true := by
    show Filter.shows [.upTo .warn] n = true
    rw [Filter.shows_upTo, warn]
    rfl
  have line : n.line = warningLine n.text := by
    rw [Notice.line, warn]
    rfl
  rw [Filter.lines, List.filter_cons_of_pos shown, List.filter_nil, List.map_singleton, line]

theorem text_limitReached (cycles : UInt64) :
    (Notice.limitReached cycles).text = "cycle limit reached cycles=" ++ Nat.repr cycles.toNat := by
  show "cycle limit reached" ++ ("" ++ (" " ++ "cycles" ++ "=" ++ Nat.repr cycles.toNat)) = _
  rw [← String.toList_inj]
  simp

theorem text_faulted (fault : Fault) (pc : UInt8) (cycles : UInt64) :
    (Notice.event (.faulted fault pc cycles)).text =
      "fault: " ++ fault.message ++ " pc=" ++ Nat.repr pc.toNat ++ " cycle="
        ++ Nat.repr cycles.toNat := by
  show "fault: " ++ fault.message ++ ("" ++ (" " ++ "pc" ++ "=" ++ Nat.repr pc.toNat)
    ++ (" " ++ "cycle" ++ "=" ++ Nat.repr cycles.toNat)) = _
  rw [← String.toList_inj]
  simp

section End
variable {done : Outcome Printed HaltReason}

theorem lines_of_halt (answer : done.answer = .ok .instruction) :
    (Filter.ofSetting none).lines (endNotices done) = [] := by
  rw [endNotices, Machine.ending, answer]
  rfl

theorem lines_of_limit (answer : done.answer = .ok .cycleLimit) :
    (Filter.ofSetting none).lines (endNotices done) =
      [warningLine ("cycle limit reached cycles=" ++ Nat.repr done.machine.state.cycles.toNat)] := by
  rw [endNotices, Machine.ending, answer]
  dsimp only
  rw [← List.singleton_append, Filter.lines_append,
    Filter.lines_unset (List.forall_mem_singleton.mpr rfl), List.nil_append, lines_warning rfl,
    text_limitReached]

theorem lines_of_fault {fault : Fault} (answer : done.answer = .error fault) :
    (Filter.ofSetting none).lines (endNotices done) =
      [warningLine ("fault: " ++ fault.message ++ " pc=" ++ Nat.repr done.machine.state.pc.toNat
        ++ " cycle=" ++ Nat.repr done.machine.state.cycles.toNat)] := by
  rw [endNotices, Machine.ending, answer]
  dsimp only
  rw [lines_warning rfl, text_faulted]

end End

/-- A run that its limit ends has come to the limit. -/
theorem cycles_of_limit {options : RunOptions} {image : Image}
    (answer : (options.outcome image).answer = .ok .cycleLimit) :
    (options.outcome image).machine.state.cycles.toNat = options.maxCycles.toNat := by
  obtain ⟨is, last, sink, path, within, ends⟩ :=
    Machine.exists_path_of_run (image.fresh options.config) Printed.empty
  cases path.ending within rfl ends with
  | limit answer cycles others state kept => exact cycles.trans (Nat.zero_max _)
  | halt halted own state kept =>
    rw [show (options.outcome image).answer = _ from halted] at answer
    cases answer
  | fault cause faulted running stepped attempted machine kept =>
    rw [show (options.outcome image).answer = _ from faulted] at answer
    cases answer

/-! ## Runs of files -/

/-- What the session of a run shows that begins with the machine. -/
structure Told (options : RunOptions) (file : String) (m : Machine) (session : Session)
    (shown : List String) : Prop where
  /-- The value of each cycle that prints one, also of a cycle that faults behind it. -/
  output : session.output = String.join (((m.begun Printed.empty).filterMap State.printed?).map lineOf)
  halted : (m.run Printed.empty).answer = .ok .instruction →
    shown = options.rowLines (m.begun Printed.empty)
  limited : (m.run Printed.empty).answer = .ok .cycleLimit →
    shown = options.rowLines (m.begun Printed.empty) ++
      [warningLine ("cycle limit reached cycles=" ++ Nat.repr options.maxCycles.toNat)]
  faulted : ∀ fault, (m.run Printed.empty).answer = .error fault →
    shown = options.rowLines (m.begun Printed.empty) ++
      [warningLine ("fault: " ++ fault.message
        ++ " pc=" ++ Nat.repr (m.run Printed.empty).machine.state.pc.toNat
        ++ " cycle=" ++ Nat.repr (m.run Printed.empty).machine.state.cycles.toNat),
      "error: " ++ ("execution of " ++ file ++ " faulted: " ++ faultChain fault)]

section Outcome
variable {options : RunOptions} {file : String} {bytes? : Except ReadError ByteArray}
  {notices : List Notice} {image : Image} {failure : String}

theorem told_of_started (started : startUp file (bytes? >>= textOf) = (notices, .ok image)) :
    Told options file (image.fresh options.config)
      ((Request.run options file).perform (bytes? >>= textOf))
      (((Request.run options file).perform (bytes? >>= textOf)).errorLines
        ((Request.run options file).filter none)) := by
  rw [errorLines_of_started started]
  refine ⟨?_, fun answer => ?_, fun answer => ?_, fun fault answer => ?_⟩
  · rw [perform_run, started]
    rfl
  all_goals
    have answer : (options.outcome image).answer = _ := answer
    rw [failureOf, answer]
  · rw [lines_of_halt answer]
    simp [failureLines, RunOptions.states]
  · rw [lines_of_limit answer, cycles_of_limit answer]
    simp [failureLines, RunOptions.states]
  · rw [lines_of_fault answer]
    simp [failureLines, RunOptions.states, RunOptions.outcome]

theorem no_newline_failure (flat : '\n' ∉ file.toList) (spoken : Spoken bytes?) {words : String}
    (failed : ((Request.run options file).perform (bytes? >>= textOf)).failure = some words) :
    '\n' ∉ words.toList := by
  rw [perform_run] at failed
  split at failed
  · next refused =>
    cases failed
    exact no_newline_of_startUp flat spoken refused
  · exact no_newline_failureOf flat failed

/-- A run is a success if its machine can be started and is stopped without a fault. -/
theorem exitCode_eq_zero_iff :
    ((Request.run options file).perform (bytes? >>= textOf)).exitCode = 0 ↔
      ∃ m, BeginsWith options file bytes? m ∧
        ∃ reason, (m.run Printed.empty).answer = .ok reason := by
  have whole := perform_run options file (bytes? >>= textOf)
  cases started : startUp file (bytes? >>= textOf) with
  | mk notices made =>
  rw [started] at whole
  cases made with
  | error failure =>
    rw [whole]
    refine iff_of_false (by decide : (1 : UInt8) ≠ 0) ?_
    rintro ⟨m, begins, -⟩
    obtain ⟨_, _, other, -⟩ := beginsWith_iff.mp begins
    rw [started] at other
    cases other
  | ok image =>
    have begins : BeginsWith options file bytes? (image.fresh options.config) :=
      beginsWith_iff.mpr ⟨notices, image, started, rfl⟩
    have answered : ∀ m, BeginsWith options file bytes? m →
        (m.run Printed.empty).answer = (options.outcome image).answer := by
      intro m other
      rw [begins.unique other]
      rfl
    have failure : ((Request.run options file).perform (bytes? >>= textOf)).failure =
        failureOf file (options.outcome image) := by rw [whole]
    rw [Session.exitCode, failure, failureOf]
    cases answer : (options.outcome image).answer with
    | ok reason => exact iff_of_true rfl ⟨_, begins, reason, answer⟩
    | error fault =>
      refine iff_of_false (by decide : (1 : UInt8) ≠ 0) ?_
      rintro ⟨m, other, reason, stopped⟩
      rw [answered m other, answer] at stopped
      cases stopped

end Outcome

/-- The last line of the errors is the failure, if there is no newline in its words. -/
theorem exists_last_line {s : Session} {words : String} (failed : s.failure = some words)
    (flat : '\n' ∉ words.toList) (f : Filter) :
    ∃ line, (Text.lines (s.errorText f).toList).getLast? = some line ∧
      "error: ".toList <+: line := by
  have text : (s.errorText f).toList =
      ((f.lines s.notices).map String.toList ++ [("error: " ++ words).toList]).flatMap
        (· ++ ['\n']) := by
    have lines : s.errorLines f = f.lines s.notices ++ ["error: " ++ words] := by
      rw [Session.errorLines, failed]
      rfl
    rw [Session.errorText, lines]
    simp [String.toList_join, List.flatMap_map, List.flatMap_append]
  refine ⟨Text.dropReturn ("error: " ++ words).toList, ?_, ?_⟩
  · rw [text]
    exact Text.getLast?_lines (Text.no_newline_add.mpr ⟨by decide, flat⟩) _
  · rw [String.toList_append]
    exact Text.prefix_dropReturn (by decide) _

theorem exists_failure {s : Session} (h : s.exitCode ≠ 0) :
    s.exitCode = 1 ∧ ∃ words, s.failure = some words := by
  cases failure : s.failure with
  | none => exact absurd (by rw [Session.exitCode, failure]; rfl) h
  | some words => exact ⟨by rw [Session.exitCode, failure]; rfl, words, rfl⟩

/-- A run of a file is a success if its machine can be started and is stopped by an instruction or by
its limit. It prints what its cycles print, tells of the limit or of the fault, and of nothing else
before the failure. This stands at the end, on the last line if no name or refusal has a newline. -/
theorem outcome_of_run (options : RunOptions) (file : String)
    (bytes? : Except ReadError ByteArray) :
    let request := Request.run options file
    let session := request.perform (bytes? >>= textOf)
    let shown := session.errorLines (request.filter none)
    (session.exitCode = 0 ↔ ∃ m, BeginsWith options file bytes? m ∧
      ∃ reason, (m.run Printed.empty).answer = .ok reason) ∧
    (session.exitCode ≠ 0 → session.exitCode = 1 ∧
      (∃ words, shown.getLast? = some ("error: " ++ words)) ∧
      ('\n' ∉ file.toList → Spoken bytes? →
        ∃ line, (Text.lines (session.errorText (request.filter none)).toList).getLast? = some line ∧
          "error: ".toList <+: line)) ∧
    (∀ m, BeginsWith options file bytes? m → Told options file m session shown) ∧
    ((∀ m, ¬ BeginsWith options file bytes? m) →
      session.output = "" ∧ ∃ words, shown = ["error: " ++ words]) := by
  intro request session shown
  refine ⟨exitCode_eq_zero_iff, ?_, ?_, ?_⟩
  · intro failed
    obtain ⟨code, words, failure⟩ := exists_failure failed
    have lines : shown = (request.filter none).lines session.notices ++ ["error: " ++ words] := by
      rw [show shown = session.errorLines (request.filter none) from rfl, Session.errorLines, failure]
      rfl
    refine ⟨code, ⟨words, by rw [lines, List.getLast?_concat]⟩, fun flat spoken => ?_⟩
    exact exists_last_line failure (no_newline_failure flat spoken failure) _
  · intro m begins
    obtain ⟨notices, image, started, rfl⟩ := beginsWith_iff.mp begins
    exact told_of_started started
  · intro none
    cases started : startUp file (bytes? >>= textOf) with
    | mk notices made =>
    cases made with
    | error failure =>
      refine ⟨?_, failure, errorLines_of_refused started⟩
      rw [show session = _ from perform_run options file _, started]
      rfl
    | ok image => exact absurd (beginsWith_iff.mpr ⟨notices, image, started, rfl⟩) (none _)

/-- A newline in the name of a file is shown as it is, so the error goes on behind it, on a line that
says nothing of an error. -/
theorem last_line_behind_newline :
    let request := Request.run ⟨false, 1000000, 0xF4⟩ "a\nb"
    let session := request.perform (FileTree.bare.read "a\nb")
    Request.ofArguments ["run", "a\nb"] = some request ∧
    session.exitCode = 1 ∧
    (Text.lines (session.errorText (request.filter none)).toList).getLast? =
      some "b: No such file or directory (os error 2)".toList ∧
    ¬ "error: ".toList <+: "b: No such file or directory (os error 2)".toList := by
  intro request session
  have missing : FileTree.bare.read "a\nb" = .error .notFound := by cbv
  have written : session.errorText (request.filter none) =
      "error: failed to read a\nb: No such file or directory (os error 2)\n" := by
    rw [show session = request.perform (.error .notFound) from congrArg request.perform missing]
    decide +kernel
  have code : session.exitCode = 1 := by
    rw [show session = request.perform (.error .notFound) from congrArg request.perform missing]
    rfl
  refine ⟨by decide +kernel, code, ?_, by decide +kernel⟩
  rw [written]
  cbv

/-- A program that puts a print into the last two bytes of the memory and calls it. The print is done,
and then there is no next instruction. -/
theorem outcome_of_run_print_at_end :
    let options : RunOptions := ⟨false, 9, 0xFF⟩
    let bytes := "LDI R1, 0x47\nPUSH R1\nLDI R2, 254\nCALL R2".toUTF8
    let request := Request.run options "p.asm"
    let session := request.perform (.ok bytes >>= textOf)
    (∃ m, BeginsWith options "p.asm" (.ok bytes) m) ∧
    session.exitCode = 1 ∧ session.output = "0\n" ∧
    session.errorLines (request.filter none) =
      [" WARN fault: Address out of range: 256 (PC 0xfe, opcode 0x47) pc=254 cycle=4",
        "error: execution of p.asm faulted: Address out of range: 256 (PC 0xfe, opcode 0x47)"] ∧
    ∃ line, (Text.lines (session.errorText (request.filter none)).toList).getLast? = some line ∧
      "error: ".toList <+: line := by
  intro options bytes request session
  let image : Image := ⟨[0x82, 0x01, 0x47, 0x45, 0x01, 0x82, 0x02, 0xFE, 0x50, 0x02]⟩
  let m := image.fresh options.config
  have asm : isSource "p.asm" = true :=
    isSource_append_asm "p" (c := 'p') rfl (by decide)
  have assembled :
      Source.assemble "LDI R1, 0x47\nPUSH R1\nLDI R2, 254\nCALL R2" = .ok image := by cbv
  have begins : BeginsWith options "p.asm" (.ok bytes) m := by
    refine ⟨bytes, _, image, rfl, fromUTF8?_toUTF8 _, ?_, by decide, ?_⟩
    · rw [Describes, if_pos asm, assembled]
    · rw [Image.ofImage_eq, if_pos (by decide)]
  have faults : m.FaultsAt Printed.empty 4 (.addressOutOfRange ⟨254, 0x47⟩ 256) :=
    ⟨by decide +kernel, by decide +kernel⟩
  have ran := Machine.run_of_faultsAt (by decide) faults
  obtain ⟨success, failure, told, -⟩ := outcome_of_run options "p.asm" (.ok bytes)
  have failed : session.exitCode ≠ 0 := by
    intro worked
    obtain ⟨other, started, reason, stopped⟩ := success.mp worked
    rw [begins.unique started, ran] at stopped
    cases stopped
  obtain ⟨code, -, last⟩ := failure failed
  have shown := (told m begins).faulted _ (by rw [ran])
  refine ⟨⟨m, begins⟩, code, ?_, ?_, last (by decide) (spoken_ok _)⟩
  · rw [(told m begins).output, show (m.begun Printed.empty).filterMap State.printed? = [0] by
      decide +kernel]
    rfl
  · rw [shown, ran]
    decide +kernel

end ByteMachine.Command
