import ByteMachine.Proofs.Command.FileName
import ByteMachine.Proofs.Command.Session
import ByteMachine.Proofs.Image.BinaryText

/-
  Assembling first and running later. What is written of an image is read back as that
  image, so a source that was assembled into a file of binary text can be left aside: the
  file runs and is listed as the source is. A source that cannot be assembled cannot be
  run or listed either, and is refused in the same words.
-/

namespace ByteMachine.Command

/-! ## Programs of files -/

theorem readProgram_of_source {file : String} (source : isSource file = true) :
    readProgram file = assembleText := by
  funext text
  rw [readProgram, if_pos source]

/-- An assembled image fits the memory. -/
theorem size_le_of_assembleText {text : String} {notices : List Notice} {image : Image}
    (made : assembleText text = (notices, .ok image)) : image.size ≤ capacity := by
  unfold assembleText at made
  split at made
  · cases made
  · next assembly _ =>
    cases built : assembly.image with
    | error e =>
      rw [built] at made
      cases made
    | ok other =>
      rw [built] at made
      cases made
      unfold Source.Assembly.image at built
      split at built
      · next checked =>
        cases built
        exact (Image.checked_eq_ok_iff.mp checked).2
      · cases built

/-! ## Sessions about a source -/

section Source
variable {source : String} {content : Except ReadError String}

theorem perform_assemble_of_ok {notices : List Notice} {image : Image}
    (made : prepare source assembleText content = (notices, .ok image)) :
    (Request.assemble source).perform content = ⟨image.binaryText, notices, none⟩ := by
  have prepared : prepare (Request.assemble source).file (Request.assemble source).program content =
      (notices, .ok image) := made
  rw [perform_eq, prepared]
  show Session.mk _ (notices ++ []) _ = _
  rw [List.append_nil]
  rfl

theorem perform_list_of_ok {file : String} {notices : List Notice} {image : Image}
    (made : prepare file (readProgram file) content = (notices, .ok image)) :
    (Request.list file).perform content = ⟨image.listing, notices, none⟩ := by
  have prepared : prepare (Request.list file).file (Request.list file).program content =
      (notices, .ok image) := made
  rw [perform_eq, prepared]
  show Session.mk _ (notices ++ []) _ = _
  rw [List.append_nil]
  rfl

/-- Whether the request is for the program in the file to be run or listed. -/
def Request.Uses (request : Request) (file : String) : Prop :=
  request = .list file ∨ ∃ options, request = .run options file

/-- Every request for a source that cannot be prepared comes to the same failure. -/
theorem perform_of_error (asm : isSource source = true) {notices : List Notice} {failure : String}
    (made : prepare source assembleText content = (notices, .error failure)) {request : Request}
    (about : request = .assemble source ∨ request.Uses source) :
    request.perform content = .failed notices failure := by
  have read : request.file = source ∧ request.program = assembleText := by
    obtain rfl | rfl | ⟨options, rfl⟩ := about
    · exact ⟨rfl, rfl⟩
    · exact ⟨rfl, readProgram_of_source asm⟩
    · exact ⟨rfl, readProgram_of_source asm⟩
  rw [perform_eq, read.1, read.2, made]

/-- And every request tells of it in the same lines. -/
theorem errorLines_of_error (asm : isSource source = true) {notices : List Notice}
    {failure : String}
    (made : prepare source assembleText content = (notices, .error failure)) (request : Request)
    (setting : Option String) :
    (Session.failed notices failure).errorLines (request.filter setting) =
      (Filter.ofSetting setting).lines notices ++ ["error: " ++ failure] := by
  have little : ∀ n ∈ notices, n.level ≠ .trace := by
    intro n mem
    have told : n ∈ (prepare source (readProgram source) content).1 := by
      rwa [readProgram_of_source asm, made]
    rw [level_prepare told]
    exact nofun
  have shown : (request.filter setting).lines notices = (Filter.ofSetting setting).lines notices :=
    request.lines_filter little
  exact congrArg (· ++ ["error: " ++ failure]) shown

end Source

/-! ## The file of an assembled source -/

/-- The lines of a fault in a run of the file. -/
def faultLines (file : String) (cause : Option String) : List String :=
  failureLines (cause.map fun words => "execution of " ++ file ++ " faulted: " ++ words)

/-- Runs of the two files come to the same and, where there is no setting for what is shown, show the
same, but for the name of the file in the line of a fault. -/
structure RunAlike (options : RunOptions) (file other : String)
    (content content' : Except ReadError String) : Prop where
  exitCode : ((Request.run options other).perform content').exitCode =
    ((Request.run options file).perform content).exitCode
  output : ((Request.run options other).perform content').output =
    ((Request.run options file).perform content).output
  errorLines : ∃ told cause,
    ((Request.run options file).perform content).errorLines
      ((Request.run options file).filter none) = told ++ faultLines file cause ∧
    ((Request.run options other).perform content').errorLines
      ((Request.run options other).filter none) = told ++ faultLines other cause

theorem exists_cause (done : Outcome Printed HaltReason) :
    ∃ cause, ∀ file, failureLines (failureOf file done) = faultLines file cause := by
  unfold failureOf
  cases done.answer with
  | error fault => exact ⟨some (faultChain fault), fun _ => rfl⟩
  | ok reason => exact ⟨none, fun _ => rfl⟩

/-- Runs that begin with the same image are alike. -/
theorem runAlike_of_startUp {file other : String} {content content' : Except ReadError String}
    {notices notices' : List Notice} {image : Image}
    (started : startUp file content = (notices, .ok image))
    (started' : startUp other content' = (notices', .ok image)) (options : RunOptions) :
    RunAlike options file other content content' := by
  obtain ⟨cause, line⟩ := exists_cause (options.outcome image)
  have begins := perform_run options file content
  have begins' := perform_run options other content'
  rw [started] at begins
  rw [started'] at begins'
  refine ⟨?_, by rw [begins, begins'], options.rowLines (options.states image) ++
    (Filter.ofSetting none).lines (endNotices (options.outcome image)), cause, ?_, ?_⟩
  · rw [begins, begins']
    show (if (failureOf other _).isSome then 1 else 0) = if (failureOf file _).isSome then 1 else 0
    unfold failureOf
    cases (options.outcome image).answer <;> rfl
  · rw [errorLines_of_started started, line]
  · rw [errorLines_of_started started', line]

/-- When a source is assembled, a file with the binary text of it runs as the source does and has the
same listing. When it cannot be assembled, it cannot be run or listed either, and all these requests
fail alike. -/
theorem assembled_file_stands_for_source {source binary : String} (asm : isSource source = true)
    (ls8 : isSource binary = false) (content : Except ReadError String) :
    let assembled := (Request.assemble source).perform content
    (assembled.exitCode = 0 →
      (∀ options, RunAlike options source binary content (textOf assembled.output.toUTF8)) ∧
      ((Request.list source).perform content).exitCode = 0 ∧
      ((Request.list binary).perform (textOf assembled.output.toUTF8)).exitCode = 0 ∧
      ((Request.list binary).perform (textOf assembled.output.toUTF8)).output =
        ((Request.list source).perform content).output) ∧
    (assembled.exitCode ≠ 0 → assembled.exitCode = 1 ∧ assembled.output = "" ∧
      ∀ request : Request, request.Uses source →
        (request.perform content).exitCode = 1 ∧ (request.perform content).output = "" ∧
        ∀ setting, (request.perform content).errorText (request.filter setting) =
          assembled.errorText ((Request.assemble source).filter setting)) := by
  have read : readProgram source = assembleText := readProgram_of_source asm
  cases made : prepare source assembleText content with
  | mk notices result =>
  cases result with
  | ok image =>
    obtain ⟨text, rfl, assembled⟩ := prepare_eq_ok_iff.mp made
    have fits := size_le_of_assembleText assembled
    have back : readProgram binary image.binaryText = ([.readBinary image.size], .ok image) := by
      rw [readProgram, ls8, if_neg Bool.false_ne_true, readBinaryText, Image.ofBinaryText_binaryText]
    rw [perform_assemble_of_ok made]
    refine ⟨fun _ => ?_, fun failed => absurd rfl failed⟩
    rw [textOf_toUTF8]
    refine ⟨runAlike_of_startUp (startUp_eq_ok_iff.mpr ⟨text, notices, rfl, by rwa [read], fits, rfl⟩)
      (startUp_eq_ok_iff.mpr ⟨_, _, rfl, back, fits, rfl⟩), ?_⟩
    rw [perform_list_of_ok (by rwa [read]), perform_list_of_ok (prepare_eq_ok_iff.mpr ⟨_, rfl, back⟩)]
    exact ⟨rfl, rfl, rfl⟩
  | error failure =>
    rw [perform_of_error asm made (.inl rfl)]
    have failed : (Session.failed notices failure).exitCode = 1 := rfl
    refine ⟨fun worked => absurd (failed.symm.trans worked) (by decide), fun _ => ⟨rfl, rfl, ?_⟩⟩
    intro request uses
    rw [perform_of_error asm made (.inr uses)]
    refine ⟨rfl, rfl, fun setting => ?_⟩
    have shown := fun request => errorLines_of_error asm made request setting
    rw [Session.errorText, Session.errorText, shown, shown]

/-- A source that can be assembled, and one that cannot. -/
theorem assembled_file_stands_for_source_print :
    let print : Except ReadError String := .ok "PRN R0\nHLT"
    let stray : Except ReadError String := .ok "STOP"
    isSource "p.asm" = true ∧ isSource "p.ls8" = false ∧
    ((Request.assemble "p.asm").perform print).exitCode = 0 ∧
    ((Request.assemble "p.asm").perform print).output = "01000111\n00000000\n00000001\n" ∧
    (∀ options, RunAlike options "p.asm" "p.ls8" print
      (textOf "01000111\n00000000\n00000001\n".toUTF8)) ∧
    ((Request.assemble "p.asm").perform stray).exitCode ≠ 0 ∧
    ((Request.list "p.asm").perform stray).exitCode = 1 := by
  intro print stray
  have asm : isSource "p.asm" = true :=
    isSource_append_asm "p" (c := 'p') rfl (by decide)
  have ls8 : isSource "p.ls8" = false := isSource_append_ls8 "p"
  have made : prepare "p.asm" assembleText print = ([.assembled 3 0], .ok ⟨[0x47, 0x00, 0x01]⟩) :=
    prepare_eq_ok_iff.mpr ⟨_, rfl, by cbv⟩
  have worked : (Request.assemble "p.asm").perform print =
      ⟨"01000111\n00000000\n00000001\n", [.assembled 3 0], none⟩ := by
    rw [perform_assemble_of_ok made]
    rfl
  have refused : ((Request.assemble "p.asm").perform stray).exitCode ≠ 0 := by
    have unknown : Source.Assembly.ofSource "STOP" = .error (.unknownInstruction 1 "STOP") := by cbv
    rw [perform_of_error asm (by rw [prepare, assembleText, unknown]) (.inl rfl)]
    exact (by decide : (1 : UInt8) ≠ 0)
  obtain ⟨same, -⟩ := assembled_file_stands_for_source asm ls8 print
  obtain ⟨-, alike⟩ := assembled_file_stands_for_source asm ls8 stray
  obtain ⟨runs, -⟩ := same (by rw [worked]; rfl)
  obtain ⟨-, -, fail⟩ := alike refused
  rw [worked] at runs ⊢
  exact ⟨asm, ls8, rfl, rfl, runs, refused, (fail _ (.inl rfl)).1⟩

end ByteMachine.Command
