import ByteMachine.Architecture

/-
  The eight byte-wide registers. The last one, R7, is the stack pointer.
-/

namespace ByteMachine

/-- One of the registers R0 to R7. -/
structure Register where
  index : Fin 8
  deriving DecidableEq, Repr

namespace Register

/-- The stack pointer. -/
def sp : Register := ⟨7⟩

/-- The register of the given number, if there is one. -/
def ofNat? (n : Nat) : Option Register :=
  if h : n < 8 then some ⟨⟨n, h⟩⟩ else none

/-- The register that a byte names. -/
def ofByte (b : UInt8) : Except Violation Register :=
  match ofNat? b.toNat with
  | some r => .ok r
  | none => .error (.registerOutOfRange b)

/-- The byte that names the register inside an instruction. -/
def byte (r : Register) : UInt8 := UInt8.ofNat r.index

/-- The name of the register, such as `R3`. -/
def name (r : Register) : String := "R" ++ Nat.repr r.index

@[simp] theorem ofNat?_index (r : Register) : ofNat? r.index = some r := by
  simp [ofNat?]

theorem ofNat?_eq_some_iff {n : Nat} {r : Register} : ofNat? n = some r ↔ n = r.index := by
  constructor
  · intro h
    unfold ofNat? at h
    split at h
    · cases h; rfl
    · cases h
  · rintro rfl
    exact ofNat?_index r

theorem ofNat?_eq_none_iff {n : Nat} : ofNat? n = none ↔ 8 ≤ n := by
  unfold ofNat?
  split <;> simp <;> omega

@[simp] theorem toNat_byte (r : Register) : r.byte.toNat = r.index := by
  have := r.index.isLt
  simp only [byte, UInt8.toNat_ofNat']
  omega

end Register

/-- What the eight registers hold. -/
structure Registers where
  cells : Vector UInt8 8
  deriving DecidableEq, Repr

namespace Registers

/-- Every register holds zero. -/
def zero : Registers := ⟨Vector.replicate 8 0⟩

/-- The value of a register. -/
def get (rs : Registers) (r : Register) : UInt8 := rs.cells[r.index]

/-- The registers with one of them replaced. -/
def set (rs : Registers) (r : Register) (v : UInt8) : Registers :=
  ⟨rs.cells.set r.index v⟩

/-- The values in the order of the registers. -/
def toList (rs : Registers) : List UInt8 := rs.cells.toList

theorem get_set (rs : Registers) (r s : Register) (v : UInt8) :
    (rs.set r v).get s = if r = s then v else rs.get s := by
  by_cases h : r = s
  · subst h; simp [get, set]
  · have : (r.index : Nat) ≠ s.index := fun e => h (by cases r; cases s; simp_all [Fin.ext_iff])
    simp [get, set, h, this]

@[simp] theorem get_set_self (rs : Registers) (r : Register) (v : UInt8) :
    (rs.set r v).get r = v := by simp [get_set]

theorem get_set_ne (rs : Registers) {r s : Register} (v : UInt8) (h : r ≠ s) :
    (rs.set r v).get s = rs.get s := by simp [get_set, h]

/-- Registers that agree everywhere are equal. -/
theorem ext_get {rs ss : Registers} (h : ∀ r, rs.get r = ss.get r) : rs = ss := by
  cases rs with
  | mk a =>
    cases ss with
    | mk b =>
      congr 1
      apply Vector.ext
      intro i hi
      exact h ⟨⟨i, hi⟩⟩

end Registers

end ByteMachine
