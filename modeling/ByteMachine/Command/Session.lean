import ByteMachine.Command.FileTree
import ByteMachine.Command.Filter
import ByteMachine.Command.Request
import ByteMachine.Image.BinaryText
import ByteMachine.Image.Listing
import ByteMachine.Source.Assembly

/-
  A session does what a request asks for, given the text of its file. It ends
  with the output, the notices in the order in which they came up, and the
  failure if there was one. What a run printed before a fault is output all
  the same.
-/

namespace ByteMachine.Command

/-- What a session comes to. -/
structure Session where
  /-- What goes to the standard output. -/
  output : String
  notices : List Notice
  /-- What went wrong, from the outermost context to the innermost cause. -/
  failure : Option String

/-- An error in words, followed by the error inside it if it wraps one. -/
def withCause (message : String) (cause : Option String) : String :=
  match cause with
  | none => message
  | some inner => message ++ ": " ++ inner

/-- A source error in words, down to its cause. -/
def sourceChain (e : Source.SourceError) : String :=
  withCause e.message <| match e with
    | .violation cause => some cause.message
    | _ => none

/-- A fault in words, down to its cause. -/
def faultChain (fault : Fault) : String :=
  withCause fault.message <| match fault with
    | .violation cause => some cause.message
    | .output cause => some cause.message
    | _ => none

/-! ## Programs -/

/-- Whether the file of the name holds assembly source, by its extension. -/
def isSource (path : String) : Bool :=
  match (fileName? path).bind extension? with
  | some ext => Text.sameLetters ext "asm" || Text.sameLetters ext "s"
  | none => false

/-- The image of an assembly source, or what is wrong with it, and what there is to tell. -/
def assembleText (text : String) : List Notice × Except String Image :=
  match Source.Assembly.ofSource text with
  | .error e => ([], .error (sourceChain e))
  | .ok assembly =>
    ([.assembled assembly.code.length assembly.labelCount],
      match assembly.image with
      | .ok image => .ok image
      | .error e => .error (sourceChain e))

/-- The image of a binary text, or what is wrong with it, and what there is to tell. -/
def readBinaryText (text : String) : List Notice × Except String Image :=
  match Image.ofBinaryText text with
  | .error e => ([], .error e.message)
  | .ok image => ([.readBinary image.size], .ok image)

/-- The image that the text of a file describes. -/
def readProgram (path text : String) : List Notice × Except String Image :=
  if isSource path then assembleText text else readBinaryText text

/-! ## Sessions -/

/-- The session that ends because of a failure before there was any output. -/
def Session.failed (notices : List Notice) (failure : String) : Session :=
  ⟨"", notices, some failure⟩

/-- A run of the image in the file of the name. -/
def runImage (options : RunOptions) (file : String) (image : Image) : Session :=
  match Machine.ofImage image options.config with
  | .error fault => .failed [] ("failed to load " ++ file ++ ": " ++ faultChain fault)
  | .ok machine =>
    let done := machine.run Printed.empty
    let output := String.join (done.sink.values.toList.map lineOf)
    let events := done.machine.journal.toList.map Notice.event
    match done.answer with
    | .ok .instruction => ⟨output, events, none⟩
    | .ok .cycleLimit => ⟨output, events ++ [.limitReached done.machine.state.cycles], none⟩
    | .error fault =>
      ⟨output, events, some ("execution of " ++ file ++ " faulted: " ++ faultChain fault)⟩

/-- The session about an image, as the request has it. -/
def imageSession (request : Request) (image : Image) : Session :=
  match request with
  | .run options file => runImage options file image
  | .list _ => ⟨image.listing, [], none⟩
  | .assemble _ => ⟨image.binaryText, [], none⟩

/-- The program of the request, in a file with the given text. -/
def Request.program (request : Request) (text : String) : List Notice × Except String Image :=
  match request with
  | .assemble _ => assembleText text
  | .run _ file | .list file => readProgram file text

/-- The filter for the notices about a request. The rows of a trace are shown
where one is asked for, whatever the setting says of their origin. -/
def Request.filter (request : Request) (setting : Option String) : Filter :=
  match request with
  | .run options _ =>
    if options.trace then (Filter.ofSetting setting).withRows else .ofSetting setting
  | _ => .ofSetting setting

/-- What the request comes to, given the text of its file. -/
def Request.perform (request : Request) (content : Except ReadError String) : Session :=
  match content with
  | .error e => .failed [] ("failed to read " ++ request.file ++ ": " ++ e.message)
  | .ok text =>
    match request.program text with
    | (notices, .error problem) => .failed notices ("in " ++ request.file ++ ": " ++ problem)
    | (notices, .ok image) =>
      let session := imageSession request image
      { session with notices := notices ++ session.notices }

namespace Session

/-- The exit code: 1 after a failure. -/
def exitCode (s : Session) : UInt8 := if s.failure.isSome then 1 else 0

/-- What goes to the standard error, in parts that each end their line: the
notices that the filter shows, then the failure. -/
def errorLines (filter : Filter) (s : Session) : List String :=
  (s.notices.filter (filter.shows ·)).map Notice.line
    ++ (s.failure.map fun failure => "error: " ++ failure).toList

/-- What goes to the standard error. -/
def errorText (filter : Filter) (s : Session) : String :=
  String.join ((s.errorLines filter).map (· ++ "\n"))

end Session

/-- The exit code for arguments that are no request. -/
def usageExitCode : UInt8 := 2

end ByteMachine.Command
