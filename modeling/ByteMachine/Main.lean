import ByteMachine.Command.Session

/-
  The command line: reads the one file that the arguments name, lets the
  session do the work, and writes what it comes to.
-/

namespace ByteMachine.Command

/-- The refusal of the system to read a file. -/
def ReadError.ofSystem : IO.Error → ReadError
  | .noFileOrDirectory _ _ _ => .notFound
  | .inappropriateType none _ _ => .isDirectory
  | .inappropriateType (some _) _ _ => .notDirectory
  | .invalidArgument _ 36 _ => .nameTooLong
  | .permissionDenied _ _ _ => .system "Permission denied" 13
  | e => .system (toString e) 5

/-- The text of the file, or why there is none. -/
def readText (path : String) : IO (Except ReadError String) := do
  try return textOf (← IO.FS.readBinFile path)
  catch e => return .error (.ofSystem e)

end ByteMachine.Command

open ByteMachine.Command in
/-- Runs the command that the arguments ask for. -/
def main (args : List String) : IO UInt32 := do
  match Request.ofArguments args with
  | none =>
    IO.eprintln "usage: run [--trace] [--max-cycles N] [--stack-top B] FILE | disasm FILE | asm FILE"
    return usageExitCode.toUInt32
  | some request =>
    let filter := request.filter (← IO.getEnv "RUST_LOG")
    let session := request.perform (← readText request.file)
    IO.print session.output
    IO.eprint (session.errorText filter)
    return session.exitCode.toUInt32
