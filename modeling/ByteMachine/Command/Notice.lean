import ByteMachine.Machine

/-
  Notices: what a command tells about its work besides its output. A notice
  has a level, a message and fields, and comes from an origin, a path of names
  whose beginning says which part of the work it is about.
-/

namespace ByteMachine.Command

/-- How much a notice matters, the most important first. -/
inductive Level where
  | error | warn | info | debug | trace
  deriving DecidableEq, Repr

namespace Level

/-- Every level. -/
def all : List Level := [.error, .warn, .info, .debug, .trace]

/-- The place of the level, the most important first. -/
def rank : Level → Nat
  | .error => 1
  | .warn => 2
  | .info => 3
  | .debug => 4
  | .trace => 5

/-- The level at a place. -/
def ofRank? (rank : Nat) : Option Level := all.find? (·.rank == rank)

/-- The name of the level. -/
def name : Level → String
  | .error => "ERROR"
  | .warn => "WARN"
  | .info => "INFO"
  | .debug => "DEBUG"
  | .trace => "TRACE"

theorem ofRank?_rank (l : Level) : ofRank? l.rank = some l := by cases l <;> rfl

end Level

/-- Something a command has to tell. -/
inductive Notice where
  /-- A source was assembled to `size` bytes with `labels` labels. -/
  | assembled (size labels : Nat)
  /-- Binary text was read as `size` bytes. -/
  | readBinary (size : Nat)
  /-- Something happened to the machine. -/
  | event (e : Event)
  /-- The run was stopped by its limit. -/
  | limitReached (cycles : UInt64)
  deriving DecidableEq, Repr

/-- The name of a reason for halting. -/
def reasonName : HaltReason → String
  | .instruction => "Halt"
  | .cycleLimit => "CycleLimit"

namespace Notice

/-- How much the notice matters. -/
def level : Notice → Level
  | .assembled _ _ | .readBinary _ | .event (.loaded _) | .event (.halted _ _) => .debug
  | .event (.row _) => .trace
  | .event (.faulted _ _ _) | .limitReached _ => .warn

/-- The origin of the rows of a trace. -/
def rowOrigin : String := "ls8_runtime::trace"

/-- Where the notice comes from. -/
def origin : Notice → String
  | .assembled _ _ => "ls8_assembler::assembler"
  | .readBinary _ => "ls8_assembler::loader"
  | .event (.row _) => rowOrigin
  | .event _ => "ls8_runtime::vm"
  | .limitReached _ => "ls8"

/-- The message of the notice. -/
def message : Notice → String
  | .assembled _ _ => "assembled program"
  | .readBinary _ => "parsed ls8 program"
  | .event (.loaded _) => "loaded program"
  | .event (.row row) => row.text
  | .event (.faulted fault _ _) => "fault: " ++ fault.message
  | .event (.halted _ _) => "machine halted"
  | .limitReached _ => "cycle limit reached"

/-- The fields of the notice besides its message, with their values. -/
def fields : Notice → List (String × String)
  | .assembled size labels => [("bytes", Nat.repr size), ("labels", Nat.repr labels)]
  | .readBinary size | .event (.loaded size) => [("bytes", Nat.repr size)]
  | .event (.row _) => []
  | .event (.faulted _ pc cycles) =>
    [("pc", Nat.repr pc.toNat), ("cycle", Nat.repr cycles.toNat)]
  | .event (.halted cycles reason) =>
    [("cycles", Nat.repr cycles.toNat), ("reason", reasonName reason)]
  | .limitReached cycles => [("cycles", Nat.repr cycles.toNat)]

/-- Whether the notice has a field of the name; the message is one. -/
def hasField (n : Notice) (name : String) : Bool :=
  name == "message" || n.fields.any (·.1 == name)

/-- The notice in words. -/
def text (n : Notice) : String :=
  n.message ++ String.join (n.fields.map fun (name, value) => " " ++ name ++ "=" ++ value)

/-- The notice as a line: its level in five columns, then its text. -/
def line (n : Notice) : String :=
  String.ofList (List.replicate (5 - n.level.name.length) ' ') ++ n.level.name ++ " " ++ n.text

end Notice

end ByteMachine.Command
