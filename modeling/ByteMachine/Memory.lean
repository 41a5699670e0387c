import ByteMachine.Image

/-
  The memory: 256 bytes, shared by the program and the stack. Every byte is an
  address, so reading and writing by address cannot fail.
-/

namespace ByteMachine

/-- What the memory cells hold. -/
structure Memory where
  cells : Vector UInt8 256
  deriving DecidableEq, Repr

namespace Memory

/-- Every cell holds zero. -/
def zero : Memory := ⟨Vector.replicate 256 0⟩

/-- The cell at an address. -/
def read (m : Memory) (address : UInt8) : UInt8 := m.cells.get address.toFin

/-- The memory with the cell at an address replaced. -/
def write (m : Memory) (address value : UInt8) : Memory :=
  ⟨m.cells.set address.toNat value address.toNat_lt⟩

/-- The cell of any number, if there is one. -/
def get? (m : Memory) (index : Nat) : Option UInt8 := m.cells[index]?

/-- The cells in the order of their addresses. -/
def toList (m : Memory) : List UInt8 := m.cells.toList

/-- The `count` cells from `start` on, or as many as there are. -/
def slice (m : Memory) (start count : Nat) : List UInt8 :=
  (List.range' start count).filterMap m.get?

/-- The memory with the bytes written over its first cells. -/
def overlay (m : Memory) (bytes : List UInt8) : Memory :=
  ⟨Vector.ofFn fun i => bytes[i.val]?.getD m.cells[i]⟩

/-- The memory with the image in it, unless the image is too long. -/
def load (m : Memory) (image : Image) : Option Memory :=
  if image.size ≤ capacity then some (m.overlay image.bytes) else none

theorem get?_eq_read (m : Memory) (address : UInt8) :
    m.get? address.toNat = some (m.read address) := by
  have h := address.toNat_lt
  simp only [get?, read, Vector.get]
  rw [Vector.getElem?_eq_getElem h]
  rfl

theorem get?_eq_none_iff {m : Memory} {index : Nat} : m.get? index = none ↔ capacity ≤ index := by
  simp [get?, capacity]

theorem read_write (m : Memory) (a b value : UInt8) :
    (m.write a value).read b = if a = b then value else m.read b := by
  have hb := b.toNat_lt
  have key : some ((m.write a value).read b) = some (if a = b then value else m.read b) := by
    rw [← get?_eq_read, apply_ite some, ← get?_eq_read]
    simp only [get?, write, Vector.getElem?_set, UInt8.toNat_inj]
  exact Option.some.inj key

@[simp] theorem read_write_self (m : Memory) (a value : UInt8) :
    (m.write a value).read a = value := by simp [read_write]

theorem read_write_ne (m : Memory) {a b : UInt8} (value : UInt8) (h : a ≠ b) :
    (m.write a value).read b = m.read b := by simp [read_write, h]

theorem get?_overlay (m : Memory) (bytes : List UInt8) {index : Nat} (h : index < capacity) :
    (m.overlay bytes).get? index = some (bytes[index]?.getD ((m.get? index).getD 0)) := by
  simp [get?, overlay, show index < 256 from h]

theorem length_toList (m : Memory) : m.toList.length = capacity := by
  simp [toList, capacity]

theorem getElem?_toList (m : Memory) (index : Nat) : m.toList[index]? = m.get? index := by
  simp [toList, get?]

theorem slice_succ (m : Memory) (start count : Nat) :
    m.slice start (count + 1) = (m.get? start).toList ++ m.slice (start + 1) count := by
  simp only [slice, List.range'_succ, List.filterMap_cons]
  cases m.get? start <;> rfl

/-- A slice is the part of the memory that it names, cut off where the memory ends. -/
theorem slice_eq_take_drop (m : Memory) (start count : Nat) :
    m.slice start count = (m.toList.drop start).take count := by
  induction count generalizing start with
  | zero => simp [slice]
  | succ count ih =>
    rw [slice_succ, ih, ← getElem?_toList]
    by_cases h : start < m.toList.length
    · rw [List.drop_eq_getElem_cons h, List.getElem?_eq_getElem h, List.take_succ_cons]
      rfl
    · -- Past the end both sides are empty.
      rw [List.getElem?_eq_none (by omega), List.drop_eq_nil_of_le (by omega),
        List.drop_eq_nil_of_le (by omega)]
      simp

/-- Memories that agree at every address are equal. -/
theorem ext_read {m n : Memory} (h : ∀ a, m.read a = n.read a) : m = n := by
  have key : ∀ i : Nat, i < 256 → m.get? i = n.get? i := by
    intro i hi
    have hi' : (UInt8.ofNat i).toNat = i := by simpa using hi
    rw [← hi', get?_eq_read, get?_eq_read, h]
  cases m with
  | mk a =>
    cases n with
    | mk b =>
      congr 1
      apply Vector.ext
      intro i hi
      simpa [get?, hi] using key i hi

end Memory

end ByteMachine
