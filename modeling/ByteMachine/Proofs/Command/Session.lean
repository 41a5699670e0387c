import ByteMachine.Command.Session
import ByteMachine.Proofs.Command.Filter
import ByteMachine.Proofs.Machine.Records

/-
  What a session comes to. Every request needs a program first, and a run loads it as
  well. Nothing is printed up to there, and what goes wrong there ends the session. From
  there on, a run comes to what its machine comes to:

    1. `perform_eq`: a session is told by the preparation of its program and by what is
       done with the image.
    2. `runImage_eq`: the output, the notices and the failure of a run, told by the states
       in which its cycles begin and by its end.
    3. `perform_run` and `errorLines_run`: the session of a run as a whole, and what it
       shows of itself.
-/

namespace ByteMachine.Command

/-! ## Preparing a program -/

theorem textOf_eq_ok_iff {bytes : ByteArray} {text : String} :
    textOf bytes = .ok text ↔ String.fromUTF8? bytes = some text := by
  unfold textOf
  cases String.fromUTF8? bytes with
  | none => simp
  | some other => simp

theorem fromUTF8?_toUTF8 (text : String) : String.fromUTF8? text.toUTF8 = some text := by
  have valid : text.toUTF8.IsValidUTF8 := text.isValidUTF8
  rw [String.fromUTF8?, dif_pos valid]
  rfl

theorem textOf_toUTF8 (text : String) : textOf text.toUTF8 = .ok text :=
  textOf_eq_ok_iff.mpr (fromUTF8?_toUTF8 text)

/-- The program in the file, once its text is read, and what there is to tell. -/
def prepare (file : String) (read : String → List Notice × Except String Image)
    (content : Except ReadError String) : List Notice × Except String Image :=
  match content with
  | .error e => ([], .error ("failed to read " ++ file ++ ": " ++ e.message))
  | .ok text =>
    match read text with
    | (notices, .error problem) => (notices, .error ("in " ++ file ++ ": " ++ problem))
    | (notices, .ok image) => (notices, .ok image)

/-- The session with notices in front of its own. -/
def Session.after (s : Session) (notices : List Notice) : Session :=
  { s with notices := notices ++ s.notices }

theorem perform_eq (request : Request) (content : Except ReadError String) :
    request.perform content =
      match prepare request.file request.program content with
      | (notices, .error failure) => .failed notices failure
      | (notices, .ok image) => (imageSession request image).after notices := by
  cases content with
  | error e => rfl
  | ok text =>
    simp only [Request.perform, prepare]
    cases request.program text with
    | mk notices made =>
      cases made with
      | error problem => rfl
      | ok image => rfl

/-- The program that a run of the file begins with, once it is loaded. -/
def startUp (file : String) (content : Except ReadError String) :
    List Notice × Except String Image :=
  match prepare file (readProgram file) content with
  | (notices, .error failure) => (notices, .error failure)
  | (notices, .ok image) =>
    if image.size ≤ capacity then (notices ++ [.event (.loaded image.size)], .ok image)
    else (notices,
      .error ("failed to load " ++ file ++ ": " ++ faultChain (.loadOverflow image.size)))

theorem prepare_eq_ok_iff {file : String} {read : String → List Notice × Except String Image}
    {content : Except ReadError String} {notices : List Notice} {image : Image} :
    prepare file read content = (notices, .ok image) ↔
      ∃ text, content = .ok text ∧ read text = (notices, .ok image) := by
  cases content with
  | error e => simp [prepare]
  | ok text =>
    rw [prepare]
    split
    · next made => simp [made]
    · next made => simp [made]

theorem startUp_eq_ok_iff {file : String} {content : Except ReadError String}
    {notices : List Notice} {image : Image} :
    startUp file content = (notices, .ok image) ↔
      ∃ text told, content = .ok text ∧ readProgram file text = (told, .ok image) ∧
        image.size ≤ capacity ∧ notices = told ++ [.event (.loaded image.size)] := by
  rw [startUp]
  constructor
  · intro started
    split at started
    · cases started
    · next told made prepared =>
      obtain ⟨text, found, read⟩ := prepare_eq_ok_iff.mp prepared
      split at started
      · next fits =>
        cases started
        exact ⟨text, told, found, read, fits, rfl⟩
      · cases started
  · rintro ⟨text, told, found, read, fits, rfl⟩
    rw [prepare_eq_ok_iff.mpr ⟨text, found, read⟩]
    exact if_pos fits

/-! ## Runs -/

section Run
variable (options : RunOptions) (file : String) (image : Image)

/-- The states in which the cycles of a run of the image begin. -/
def RunOptions.states : List State := (image.fresh options.config).begun Printed.empty

/-- What the machine comes to in a run of the image. -/
def RunOptions.outcome : Outcome Printed HaltReason :=
  (image.fresh options.config).run Printed.empty

/-- The values that are printed in the states, a line for each. -/
def printedText (states : List State) : String :=
  String.join ((states.filterMap State.printed?).map lineOf)

/-- The rows of the states. -/
def rowNotices (states : List State) : List Notice :=
  states.map fun s => .event (Machine.beginning s)

/-- What is told of the end of a run. -/
def endNotices (done : Outcome Printed HaltReason) : List Notice :=
  .event (Machine.ending done) :: match done.answer with
    | .ok .cycleLimit => [.limitReached done.machine.state.cycles]
    | _ => []

/-- What a run reports when it has failed. -/
def failureOf (done : Outcome Printed HaltReason) : Option String :=
  match done.answer with
  | .error fault => some ("execution of " ++ file ++ " faulted: " ++ faultChain fault)
  | .ok _ => none

theorem runImage_of_large (large : capacity < image.size) :
    runImage options file image =
      .failed [] ("failed to load " ++ file ++ ": " ++ faultChain (.loadOverflow image.size)) := by
  rw [runImage, Image.ofImage_eq, if_neg (Nat.not_le.mpr large)]

theorem journal_outcome :
    (options.outcome image).machine.journal.toList.map Notice.event =
      .event (.loaded image.size) ::
        ((if options.trace then rowNotices (options.states image) else []) ++
          [.event (Machine.ending (options.outcome image))]) := by
  have journal : (options.outcome image).machine.journal.toList =
      ([.loaded image.size] ++
        if options.trace then (options.states image).map Machine.beginning else []) ++
      [Machine.ending (options.outcome image)] :=
    Machine.journal_run (image.fresh options.config) Printed.empty (image.alive_fresh _)
  rw [journal, List.append_assoc, List.map_append, List.map_append, apply_ite (List.map Notice.event),
    List.map_map]
  rfl

/-- A run prints what its states print. The notices tell of the image, of the states if asked for,
and of the end. -/
theorem runImage_eq (fits : image.size ≤ capacity) :
    runImage options file image =
      ⟨printedText (options.states image),
        .event (.loaded image.size) ::
          ((if options.trace then rowNotices (options.states image) else []) ++
            endNotices (options.outcome image)),
        failureOf file (options.outcome image)⟩ := by
  have output : String.join ((options.outcome image).sink.values.toList.map lineOf) =
      printedText (options.states image) := by
    rw [RunOptions.outcome, Machine.values_run]
    rfl
  rw [runImage, Image.ofImage_eq, if_pos fits]
  dsimp only
  rw [show (image.fresh options.config).run Printed.empty = options.outcome image from rfl, output,
    journal_outcome, endNotices, failureOf]
  cases (options.outcome image).answer with
  | error fault => rfl
  | ok reason =>
    cases reason with
    | instruction => rfl
    | cycleLimit => simp

/-- The session of a run, told by its beginning and by its machine. -/
theorem perform_run (content : Except ReadError String) :
    (Request.run options file).perform content =
      match startUp file content with
      | (notices, .error failure) => .failed notices failure
      | (notices, .ok image) =>
        ⟨printedText (options.states image),
          notices ++ ((if options.trace then rowNotices (options.states image) else []) ++
            endNotices (options.outcome image)),
          failureOf file (options.outcome image)⟩ := by
  rw [perform_eq, startUp]
  show (match prepare file (readProgram file) content with
    | (notices, .error failure) => Session.failed notices failure
    | (notices, .ok image) => (runImage options file image).after notices) = _
  obtain ⟨notices, made⟩ := prepare file (readProgram file) content
  cases made with
  | error failure => rfl
  | ok image =>
    dsimp only
    by_cases fits : image.size ≤ capacity
    · rw [runImage_eq options file image fits, if_pos fits]
      simp [Session.after]
    · rw [runImage_of_large options file image (Nat.not_le.mp fits), if_neg fits]
      simp [Session.after, Session.failed]

end Run

/-! ## What is shown -/

/-- The lines of the notices that the filter shows. -/
def Filter.lines (f : Filter) (notices : List Notice) : List String :=
  (notices.filter (f.shows ·)).map Notice.line

/-- The line of a failure. -/
def failureLines (failure : Option String) : List String :=
  (failure.map fun words => "error: " ++ words).toList

/-- The row of a state as a line. -/
def rowLine (s : State) : String := "TRACE " ++ (TraceRow.ofState s).text

theorem Notice.line_row (s : State) : Notice.line (.event (Machine.beginning s)) = rowLine s := by
  have level : (Notice.event (Machine.beginning s)).level = .trace := rfl
  have text : (Notice.event (Machine.beginning s)).text = (TraceRow.ofState s).text :=
    String.append_empty
  rw [Notice.line, level, text, rowLine]
  rfl

namespace Filter
variable {f : Filter}

theorem lines_append (f : Filter) (a b : List Notice) :
    f.lines (a ++ b) = f.lines a ++ f.lines b := by
  rw [lines, List.filter_append, List.map_append]
  rfl

/-- Notices of other origins are shown as without the rows. -/
theorem lines_withRows {notices : List Notice}
    (others : ∀ n ∈ notices, n.origin ≠ Notice.rowOrigin) :
    f.withRows.lines notices = f.lines notices := by
  rw [lines, lines, List.filter_congr fun n mem => shows_withRows (others n mem)]

theorem lines_rows (plain : f.Plain) (states : List State) :
    f.withRows.lines (rowNotices states) = states.map rowLine := by
  have all : (rowNotices states).filter (f.withRows.shows ·) = rowNotices states := by
    rw [List.filter_eq_self]
    intro n mem
    obtain ⟨s, -, rfl⟩ := List.mem_map.mp mem
    exact shows_row plain _
  rw [lines, all, rowNotices, List.map_map]
  exact List.map_congr_left fun s _ => Notice.line_row s

/-- Where there is no setting, nothing is shown that matters less than a warning. -/
theorem lines_unset {notices : List Notice} (little : ∀ n ∈ notices, n.level = .debug) :
    (ofSetting none).lines notices = [] := by
  have hidden : notices.filter ((ofSetting none).shows ·) = [] := by
    rw [List.filter_eq_nil_iff]
    intro n mem
    show ¬ shows [.upTo .warn] n = true
    rw [shows_upTo, little n mem]
    decide
  rw [lines, hidden, List.map_nil]

end Filter

/-! ## Levels -/

/-- Only rows come from the origin of the rows, and only they matter so little. -/
theorem Notice.origin_ne_of_level {n : Notice} (h : n.level ≠ .trace) :
    n.origin ≠ Notice.rowOrigin := by
  cases n with
  | event e =>
    cases e with
    | row => exact absurd rfl h
    | _ => simp [origin, rowOrigin]
  | _ => simp [origin, rowOrigin]

/-- Other notices than rows are shown for every request as the setting has it. -/
theorem Request.lines_filter (request : Request) {setting : Option String} {notices : List Notice}
    (others : ∀ n ∈ notices, n.level ≠ .trace) :
    (request.filter setting).lines notices = (Filter.ofSetting setting).lines notices := by
  have same := Filter.lines_withRows (f := .ofSetting setting)
    fun n mem => Notice.origin_ne_of_level (others n mem)
  unfold Request.filter
  split
  · split
    · exact same
    · rfl
  · rfl

theorem level_readProgram {file text : String} {n : Notice} (mem : n ∈ (readProgram file text).1) :
    n.level = .debug := by
  unfold readProgram at mem
  split at mem
  · unfold assembleText at mem
    split at mem
    · cases mem
    · rw [List.mem_singleton.mp mem]
      rfl
  · unfold readBinaryText at mem
    split at mem
    · cases mem
    · rw [List.mem_singleton.mp mem]
      rfl

theorem mem_prepare {file : String} {read : String → List Notice × Except String Image}
    {content : Except ReadError String} {n : Notice} (mem : n ∈ (prepare file read content).1) :
    ∃ text, n ∈ (read text).1 := by
  unfold prepare at mem
  split at mem
  · cases mem
  · next text =>
    refine ⟨text, ?_⟩
    split at mem
    · next made => rwa [made]
    · next made => rwa [made]

section Beginning
variable {file : String} {content : Except ReadError String} {n : Notice}

/-- What is told of the preparation of a program matters little. -/
theorem level_prepare (mem : n ∈ (prepare file (readProgram file) content).1) :
    n.level = .debug := by
  obtain ⟨text, told⟩ := mem_prepare mem
  exact level_readProgram told

/-- So does what is told before a run begins. -/
theorem level_startUp (mem : n ∈ (startUp file content).1) : n.level = .debug := by
  have prepared : n ∈ (prepare file (readProgram file) content).1 → n.level = .debug :=
    level_prepare
  unfold startUp at mem
  split at mem
  · next same =>
    rw [same] at prepared
    exact prepared mem
  · next same =>
    rw [same] at prepared
    split at mem
    · obtain mem | mem := List.mem_append.mp mem
      · exact prepared mem
      · rw [List.mem_singleton.mp mem]
        rfl
    · exact prepared mem

end Beginning

theorem level_endNotices {done : Outcome Printed HaltReason} {n : Notice}
    (mem : n ∈ endNotices done) : n.level ≠ .trace := by
  obtain rfl | mem := List.mem_cons.mp mem
  · unfold Machine.ending
    split <;> exact nofun
  · split at mem
    · rw [List.mem_singleton.mp mem]
      exact nofun
    · cases mem

/-- The rows that a run shows. -/
def RunOptions.rowLines (options : RunOptions) (states : List State) : List String :=
  if options.trace then states.map rowLine else []

theorem lines_rowNotices {setting : Option String} (plain : (Filter.ofSetting setting).Plain)
    (options : RunOptions) (file : String) (states : List State) :
    ((Request.run options file).filter setting).lines
      (if options.trace then rowNotices states else []) = options.rowLines states := by
  rw [Request.filter, RunOptions.rowLines]
  cases options.trace with
  | false => rfl
  | true =>
    simp only [if_true]
    exact Filter.lines_rows plain states

/-- What a run shows, in order: how it began, the rows, how it ended and the failure. -/
theorem errorLines_run {setting : Option String} (plain : (Filter.ofSetting setting).Plain)
    (options : RunOptions) (file : String) (content : Except ReadError String) :
    ((Request.run options file).perform content).errorLines
        ((Request.run options file).filter setting) =
      match startUp file content with
      | (notices, .error failure) =>
        (Filter.ofSetting setting).lines notices ++ failureLines (some failure)
      | (notices, .ok image) =>
        (Filter.ofSetting setting).lines notices ++ options.rowLines (options.states image) ++
          (Filter.ofSetting setting).lines (endNotices (options.outcome image)) ++
          failureLines (failureOf file (options.outcome image)) := by
  have shown : ∀ s : Session, s.errorLines ((Request.run options file).filter setting) =
      ((Request.run options file).filter setting).lines s.notices ++ failureLines s.failure :=
    fun _ => rfl
  have little : ∀ n ∈ (startUp file content).1, n.level ≠ .trace := by
    intro n mem
    rw [level_startUp mem]
    exact nofun
  have start : ((Request.run options file).filter setting).lines (startUp file content).1 =
      (Filter.ofSetting setting).lines (startUp file content).1 := Request.lines_filter _ little
  rw [shown, perform_run]
  generalize startUp file content = started at start
  obtain ⟨notices, made⟩ := started
  cases made with
  | error failure => exact congrArg (· ++ _) start
  | ok image =>
    dsimp only at start ⊢
    rw [Filter.lines_append, Filter.lines_append, start, lines_rowNotices plain,
      Request.lines_filter _ fun n mem => level_endNotices mem, ← List.append_assoc]

/-! ## Without a setting -/

section Unset
variable {options : RunOptions} {file : String} {content : Except ReadError String}
  {notices : List Notice}

/-- Nothing that is told before a run begins is shown where there is no setting. -/
theorem lines_startUp (file : String) (content : Except ReadError String) :
    (Filter.ofSetting none).lines (startUp file content).1 = [] :=
  Filter.lines_unset fun _ => level_startUp

theorem errorLines_of_started {image : Image}
    (started : startUp file content = (notices, .ok image)) :
    ((Request.run options file).perform content).errorLines
        ((Request.run options file).filter none) =
      options.rowLines (options.states image) ++
        (Filter.ofSetting none).lines (endNotices (options.outcome image)) ++
        failureLines (failureOf file (options.outcome image)) := by
  have silent := lines_startUp file content
  rw [started] at silent
  rw [errorLines_run Filter.Bare.unset.plain, started]
  dsimp only
  rw [silent, List.nil_append]

theorem errorLines_of_refused {failure : String}
    (refused : startUp file content = (notices, .error failure)) :
    ((Request.run options file).perform content).errorLines
        ((Request.run options file).filter none) = ["error: " ++ failure] := by
  have silent := lines_startUp file content
  rw [refused] at silent
  rw [errorLines_run Filter.Bare.unset.plain, refused]
  dsimp only
  rw [silent]
  rfl

end Unset

end ByteMachine.Command
