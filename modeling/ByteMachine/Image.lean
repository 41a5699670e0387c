import ByteMachine.Architecture

/-
  Program images: the bytes that are copied to the memory from address 0. An
  image may be longer than the memory; `checked` is where that is noticed.
-/

namespace ByteMachine

/-- The bytes of a program. -/
structure Image where
  bytes : List UInt8
  deriving DecidableEq, Repr

namespace Image

/-- The number of bytes. -/
def size (image : Image) : Nat := image.bytes.length

/-- The image of the given bytes, if it fits the memory. -/
def checked (bytes : List UInt8) : Except Violation Image :=
  if bytes.length ≤ capacity then .ok ⟨bytes⟩ else .error (.imageTooLarge bytes.length)

/-- A short account of the image: how much of the memory it takes. -/
def summary (image : Image) : String :=
  "LS-8 Program\n  Size:        " ++ Nat.repr image.size ++ " bytes\n  Free:        "
    ++ Nat.repr (capacity - image.size) ++ " bytes\n"

theorem checked_eq_ok_iff {bytes : List UInt8} {image : Image} :
    checked bytes = .ok image ↔ image.bytes = bytes ∧ image.size ≤ capacity := by
  unfold checked
  split <;> rename_i h <;> constructor
  · intro e; cases e; exact ⟨rfl, h⟩
  · rintro ⟨rfl, _⟩; rfl
  · intro e; cases e
  · rintro ⟨rfl, k⟩; exact absurd k h

end Image

end ByteMachine
