/-
  Where printed values go. A sink takes one value at a time and either keeps
  it or fails; a sink that fails may still have kept a part of it.
-/

namespace ByteMachine

/-- Why a sink failed. -/
inductive SinkError where
  /-- There is no room for the whole line. -/
  | full
  deriving DecidableEq, Repr

/-- The failure in words. -/
def SinkError.message : SinkError → String
  | .full => "failed to write whole buffer"

/-- A place for printed values. -/
class Sink (σ : Type) where
  /-- The sink after a value was offered to it, and the failure if there was one. -/
  write : σ → UInt8 → σ × Option SinkError

/-- The values themselves, in the order of printing. This sink never fails. -/
structure Printed where
  values : Array UInt8
  deriving DecidableEq, Repr

/-- Nothing printed yet. -/
def Printed.empty : Printed := ⟨#[]⟩

instance : Sink Printed where
  write out value := (⟨out.values.push value⟩, none)

/-- A value as a line of text: its decimal digits and a newline. -/
def lineOf (value : UInt8) : String := Nat.repr value.toNat ++ "\n"

/-- Lines of text in a buffer of bounded size. A line that does not fit is cut
off where the buffer ends. -/
structure LineBuffer where
  /-- The number of bytes the buffer can hold. -/
  capacity : Nat
  /-- What it holds. -/
  text : String
  deriving DecidableEq, Repr

namespace LineBuffer

/-- The buffer with nothing in it. -/
def empty (capacity : Nat) : LineBuffer := ⟨capacity, ""⟩

/-- The number of bytes still free. -/
def room (b : LineBuffer) : Nat := b.capacity - b.text.utf8ByteSize

/-- The buffer with as much of the line as fits. -/
def append (b : LineBuffer) (line : String) : LineBuffer :=
  { b with text := b.text ++ String.ofList (line.toList.take b.room) }

end LineBuffer

instance : Sink LineBuffer where
  write b value :=
    (b.append (lineOf value), if (lineOf value).length ≤ b.room then none else some .full)

end ByteMachine
