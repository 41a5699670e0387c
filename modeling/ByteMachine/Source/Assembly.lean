import ByteMachine.Image
import ByteMachine.Source.Statement

/-
  Assembling a source. The lines are laid out first: each instruction comes
  right after the one before it, and a label stands for the address of the
  next instruction. Only then are the instructions made, when every label is
  known, so a label may be used before the line that defines it.
-/

namespace ByteMachine.Source

/-- A command and the number of its line. -/
structure Placed where
  line : Nat
  command : Command
  deriving DecidableEq, Repr

/-- Where the lines read so far have put everything. -/
structure Layout where
  /-- The number of bytes so far: the address of the next instruction. -/
  size : Nat
  /-- The labels with their addresses. -/
  labels : List (String × Nat)
  /-- The commands in the order of their lines. -/
  placed : Array Placed

namespace Layout

/-- The layout of no lines. -/
def empty : Layout := ⟨0, [], #[]⟩

/-- The address of a label. -/
def address? (l : Layout) (name : String) : Option Nat := l.labels.lookup name

/-- The layout with the label of a statement, which has to be new. -/
def define (l : Layout) (s : Statement) : Except SourceError Layout :=
  match s.label with
  | none => .ok l
  | some name =>
    if (l.address? name).isSome then .error (.duplicateLabel s.line name)
    else .ok { l with labels := (name, l.size) :: l.labels }

/-- The layout with the command of a statement at its end. -/
def place (l : Layout) (s : Statement) : Layout :=
  match s.command with
  | none => l
  | some c => { l with size := l.size + c.opcode.size, placed := l.placed.push ⟨s.line, c⟩ }

/-- The layout with one more line. -/
def addLine (l : Layout) (line : Nat) (text : String) : Except SourceError Layout := do
  let s ← Statement.parse line text
  return (← l.define s).place s

/-- The layout with more lines, of which the first has the number `line`. -/
def addLines (l : Layout) (line : Nat) : List (List Char) → Except SourceError Layout
  | [] => .ok l
  | text :: rest => do (← l.addLine line (String.ofList text)).addLines (line + 1) rest

/-- The layout of a whole source. -/
def ofSource (source : String) : Except SourceError Layout :=
  empty.addLines 1 (Text.lines source.toList)

/-- The instructions of the commands. -/
def instructions (l : Layout) : Except SourceError (List Instruction) :=
  l.placed.toList.mapM fun p => p.command.instruction p.line l.address?

end Layout

/-- An assembled source, whether or not the memory can hold it. -/
structure Assembly where
  /-- The instructions in the order of their lines. -/
  instructions : List Instruction
  /-- The number of labels defined. -/
  labelCount : Nat

namespace Assembly

/-- The assembly of a source. -/
def ofSource (source : String) : Except SourceError Assembly := do
  let layout ← Layout.ofSource source
  return ⟨← layout.instructions, layout.labels.length⟩

/-- The bytes of the instructions. -/
def code (a : Assembly) : List UInt8 := a.instructions.flatMap Instruction.encode

/-- The image, if the memory can hold it. -/
def image (a : Assembly) : Except SourceError Image :=
  match Image.checked a.code with
  | .ok image => .ok image
  | .error cause => .error (.violation cause)

end Assembly

/-- The image that a source describes. -/
def assemble (source : String) : Except SourceError Image := do
  (← Assembly.ofSource source).image

end ByteMachine.Source
