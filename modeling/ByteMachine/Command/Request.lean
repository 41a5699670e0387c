import ByteMachine.Machine

/-
  Requests: what the arguments of the command line ask for. The first argument
  names the command; after it come one file and, for a run, options before or
  behind it. `--` ends the options. An option takes its value from behind `=`
  or from the next argument, and may be given once. Arguments that ask for
  nothing sensible are no request.
-/

namespace ByteMachine.Command

/-- How to run a program. -/
structure RunOptions where
  /-- Whether a row is shown before every cycle. -/
  trace : Bool
  maxCycles : UInt64
  stackTop : UInt8
  deriving DecidableEq, Repr

/-- The settings of a machine that runs with the options. -/
def RunOptions.config (o : RunOptions) : Config where
  maxCycles := o.maxCycles
  stackTop := o.stackTop
  logRows := o.trace

/-- What can be asked for, each with the name of a file. -/
inductive Request where
  /-- Run the program. -/
  | run (options : RunOptions) (file : String)
  /-- Show the listing of the program. -/
  | list (file : String)
  /-- Assemble the source and show the image as binary text. -/
  | assemble (file : String)
  deriving DecidableEq, Repr

namespace Request

/-- The file of the request. -/
def file : Request → String
  | .run _ file | .list file | .assemble file => file

/-! ## Numbers -/

/-- A number of cycles, in decimal. -/
def cycles? (text : String) : Option UInt64 :=
  (Text.number? 10 (UInt64.size - 1) Char.isDigit text.toList).map UInt64.ofNat

/-- A byte, in decimal or behind `0x` in hexadecimal. -/
def byte? (text : String) : Option UInt8 :=
  match text.toList with
  | '0' :: 'x' :: digits | '0' :: 'X' :: digits =>
    (Text.number? 16 255 Text.isHexDigit digits).map UInt8.ofNat
  | digits => (Text.number? 10 255 Char.isDigit digits).map UInt8.ofNat

/-! ## Arguments -/

/-- What the arguments read so far have settled. -/
structure Draft where
  file : Option String := none
  trace : Bool := false
  maxCycles : Option UInt64 := none
  stackTop : Option UInt8 := none

namespace Draft

/-- The draft with its file, which has a name and is the only one. -/
def addFile (d : Draft) (name : String) : Option Draft :=
  if d.file = none ∧ name ≠ "" then some { d with file := some name } else none

/-- The draft with the option set whose value is the text. -/
def addValue (d : Draft) (option value : String) : Option Draft :=
  if option = "--max-cycles" ∧ d.maxCycles = none then do
    return { d with maxCycles := some (← cycles? value) }
  else if option = "--stack-top" ∧ d.stackTop = none then do
    return { d with stackTop := some (← byte? value) }
  else none

/-- The draft with the trace asked for. -/
def addTrace (d : Draft) : Option Draft :=
  if d.trace then none else some { d with trace := true }

end Draft

/-- Whether the argument has the form of an option. A lone dash has not. -/
def isOption (arg : String) : Bool := arg.toList.head? == some '-' && arg != "-"

/-- The part before the first `=` and the part behind it, if there is one. -/
def splitValue (arg : String) : String × Option String :=
  let cs := arg.toList
  (String.ofList (cs.takeWhile (· != '=')),
    (cs.dropWhile (· != '=')).tail?.map String.ofList)

/-- The draft after the arguments of a command, which may or may not take options. -/
def read (takesOptions : Bool) (d : Draft) : List String → Option Draft
  | [] => some d
  | arg :: rest =>
    if arg = "--" then rest.foldlM Draft.addFile d
    else if !isOption arg then do read takesOptions (← d.addFile arg) rest
    else if !takesOptions then none
    else if arg = "--trace" then do read takesOptions (← d.addTrace) rest
    else match splitValue arg, rest with
      | (option, some value), rest => do read takesOptions (← d.addValue option value) rest
      | (_, none), [] => none
      | (option, none), value :: rest =>
        if isOption value then none
        else do read takesOptions (← d.addValue option value) rest

/-- The request to run what a draft describes. -/
def ofDraft (d : Draft) : Option Request := do
  let usual : Config := {}
  return .run ⟨d.trace, d.maxCycles.getD usual.maxCycles, d.stackTop.getD usual.stackTop⟩ (← d.file)

/-- The request that the arguments make. -/
def ofArguments : List String → Option Request
  | "run" :: rest => do ofDraft (← read true {} rest)
  | "disasm" :: rest => do return .list (← (← read false {} rest).file)
  | "asm" :: rest => do return .assemble (← (← read false {} rest).file)
  | _ => none

end Request

end ByteMachine.Command
