import ByteMachine.Proofs.Machine.Stack

/-
  Footprints: what an instruction reads and what it writes. It names at most one
  register as its destination, and those that use the stack move R7 as well. It reads
  at most one memory cell and writes at most one, both next to the stack pointer, and
  the rest of the memory has no part in what it does.

    1. `get_execute`: a register outside the footprint keeps its value.
    2. `pc_execute`: without a fault an instruction that does not jump goes on behind
       itself.
    3. `execute_withMemory`: over another memory with the same value in the cell that
       is read, everything else is done in the same way, and the same value is stored.
-/

namespace ByteMachine

variable {σ : Type}

/-- The state with another memory. -/
def State.withMemory (s : State) (μ : Memory) : State := { s with memory := μ }

/-- The effect with another memory. -/
def Effect.withMemory (e : Effect σ) (μ : Memory) : Effect σ :=
  { e with state := e.state.withMemory μ }

/-- The memory after a value was stored at an address, if one was. -/
def Memory.stored (μ : Memory) : Option (UInt8 × UInt8) → Memory
  | some (address, value) => μ.write address value
  | none => μ

theorem Memory.read_stored_of_ne {μ : Memory} {store : Option (UInt8 × UInt8)} {a : UInt8}
    (other : store.map Prod.fst ≠ some a) : (μ.stored store).read a = μ.read a := by
  cases store with
  | none => rfl
  | some written =>
    apply μ.read_write_ne
    intro same
    exact other (congrArg some same)

/-- What is stored does not depend on what was there before. -/
theorem Memory.read_stored {μ ν : Memory} {store : Option (UInt8 × UInt8)} {a : UInt8}
    (same : μ.read a = ν.read a ∨ store.map Prod.fst = some a) :
    (μ.stored store).read a = (ν.stored store).read a := by
  by_cases written : store.map Prod.fst = some a
  · obtain ⟨⟨b, v⟩, rfl, rfl⟩ := Option.map_eq_some_iff.mp written
    show (μ.write b v).read b = (ν.write b v).read b
    rw [μ.read_write_self, ν.read_write_self]
  · rw [read_stored_of_ne written, read_stored_of_ne written]
    exact same.resolve_right written

namespace Instruction

/-! ## Registers and the program counter -/

/-- Whether the instruction puts a value on the stack or takes one. -/
def usesStack (i : Instruction) : Bool := i.puts || i.takes

/-- Whether the instruction goes on behind itself: it is no halt, no call and no return. -/
def goesOn : Instruction → Bool
  | .hlt | .call _ | .ret => false
  | .ldi _ _ | .prn _ | .alu _ _ _ | .push _ | .pop _ => true

section Execute
variable [Sink σ] {i : Instruction} {s : State} {out : σ}

/-- A register that is neither the destination nor a stack pointer in use keeps its value, also
when the instruction has a fault. -/
theorem get_execute {r : Register} (other : i.destination? ≠ some r)
    (apart : i.usesStack = true → r ≠ .sp) : (i.execute s out).state.get r = s.get r := by
  -- The pointer moves only where `apart` keeps `r` away from it.
  have moved : i.usesStack = true → ∀ (t : State) (v : UInt8), (t.set .sp v).get r = t.get r :=
    fun uses t v => t.registers.get_set_ne v (Ne.symm (apart uses))
  have named : ∀ {rd : Register}, i.destination? = some rd →
      ∀ (t : State) (v : UInt8), (t.set rd v).get r = t.get r :=
    fun dest t v => t.registers.get_set_ne v fun same => other (by rw [dest, same])
  cases i with
  | hlt => rfl
  | ldi rd imm => rw [execute, get_advance, named rfl]
  | alu op ra rb =>
    rw [execute, get_advance]
    exact named rfl s _
  | prn rs =>
    simp only [execute]
    split
    · rw [get_advance]
    · rfl
  | push rs =>
    by_cases bottom : s.sp = 0
    · rw [execute_push_of_eq rs bottom]
    · rw [execute_push_of_ne rs bottom, get_advance]
      exact moved rfl s _
  | pop rd =>
    by_cases top : (s.set rd s.top).sp = 255
    · rw [execute_pop_of_eq rd top]
      exact named rfl s _
    · rw [execute_pop_of_ne rd top, get_advance, moved rfl, named rfl]
  | call rs =>
    by_cases inside : s.pc.toNat + 2 < capacity
    · by_cases bottom : s.sp = 0
      · rw [execute_call_of_eq rs inside bottom]
      · rw [execute_call_of_ne rs inside bottom]
        exact moved rfl s _
    · rw [execute_call_of_outside rs inside]
  | ret =>
    by_cases top : s.sp = 255
    · rw [execute_ret_of_eq top]
      rfl
    · rw [execute_ret_of_ne top]
      exact moved rfl s _

/-- Without a fault, what does not jump goes on right behind itself. -/
theorem pc_execute (goes : i.goesOn = true) (ok : (i.execute s out).fault = none) :
    (i.execute s out).state.pc.toNat = s.pc.toNat + i.size := by
  have behind : ∀ {t : State} {sink : σ}, i.execute s out = i.advance t sink → t.pc = s.pc →
      (i.execute s out).state.pc.toNat = s.pc.toNat + i.size := by
    intro t sink same pc
    rw [same] at ok ⊢
    rw [pc_advance ok, pc]
  cases i with
  | hlt | call rs | ret => cases goes
  | ldi rd imm => exact behind rfl rfl
  | alu op ra rb => exact behind rfl rfl
  | prn rs =>
    cases written : Sink.write out (s.get rs) with
    | mk sink error =>
      cases error with
      | none =>
        have printed : (prn rs).execute s out = (prn rs).advance s sink := by
          simp only [execute, written]
        exact behind printed rfl
      | some cause =>
        simp only [execute, written] at ok
        cases ok
  | push rs =>
    by_cases bottom : s.sp = 0
    · rw [execute_push_of_eq rs bottom] at ok
      cases ok
    · exact behind (execute_push_of_ne rs bottom) rfl
  | pop rd =>
    by_cases top : (s.set rd s.top).sp = 255
    · rw [execute_pop_of_eq rd top] at ok
      cases ok
    · exact behind (execute_pop_of_ne rd top) rfl

end Execute

/-! ## The memory -/

/-- The cell that the instruction reads. -/
def load? (i : Instruction) (s : State) : Option UInt8 := if i.takes then some s.sp else none

/-- The cell that the instruction writes, and the value. A push or a call that faults before it
moves the stack pointer writes none. -/
def store? (i : Instruction) (s : State) : Option (UInt8 × UInt8) :=
  match i with
  | .push rs => if s.sp = 0 then none else some (s.sp - 1, (s.set .sp (s.sp - 1)).get rs)
  | .call _ =>
    if s.pc.toNat + 2 < capacity then
      if s.sp = 0 then none else some (s.sp - 1, s.pc + 2)
    else none
  | .hlt | .ldi _ _ | .prn _ | .alu _ _ _ | .pop _ | .ret => none

theorem advance_withMemory (i : Instruction) (s : State) (out : σ) (μ : Memory) :
    i.advance (s.withMemory μ) out = (i.advance s out).withMemory μ := by
  rw [advance_eq, advance_eq]
  rfl

/-- Over another memory that has the same value in the cell that is read, an instruction does the
same and stores the same. -/
theorem execute_withMemory [Sink σ] {i : Instruction} {s : State} {μ : Memory} (out : σ)
    (same : ∀ a, i.load? s = some a → μ.read a = s.memory.read a) :
    i.execute (s.withMemory μ) out = (i.execute s out).withMemory (μ.stored (i.store? s)) := by
  have sp : (s.withMemory μ).sp = s.sp := rfl
  have top : i.takes = true → (s.withMemory μ).top = s.top := by
    intro takes
    exact same s.sp (by rw [load?, if_pos takes])
  cases i with
  | hlt => rfl
  | ldi rd imm => exact advance_withMemory _ (s.set rd imm) out μ
  | alu op ra rb => exact advance_withMemory _ { s with registers := s.registers.combine op ra rb } out μ
  | prn rs =>
    have value : (s.withMemory μ).get rs = s.get rs := rfl
    simp only [execute, value]
    split
    · exact advance_withMemory _ s _ μ
    · rfl
  | push rs =>
    by_cases bottom : s.sp = 0
    · rw [execute_push_of_eq rs bottom, execute_push_of_eq rs (sp.trans bottom), store?,
        if_pos bottom]
      rfl
    · rw [execute_push_of_ne rs bottom, execute_push_of_ne rs (by rw [sp]; exact bottom), store?,
        if_neg bottom]
      exact advance_withMemory _ (s.pushed _) out _
  | pop rd =>
    have loaded : (s.withMemory μ).set rd (s.withMemory μ).top = (s.set rd s.top).withMemory μ := by
      rw [top rfl]
      rfl
    have sp' : ((s.set rd s.top).withMemory μ).sp = (s.set rd s.top).sp := rfl
    by_cases full : (s.set rd s.top).sp = 255
    · rw [execute_pop_of_eq rd full, execute_pop_of_eq rd (by rw [loaded, sp']; exact full), loaded]
      rfl
    · rw [execute_pop_of_ne rd full, execute_pop_of_ne rd (by rw [loaded, sp']; exact full), loaded]
      exact advance_withMemory _ ((s.set rd s.top).set .sp ((s.set rd s.top).sp + 1)) out μ
  | call rs =>
    by_cases inside : s.pc.toNat + 2 < capacity
    · have inside' : (s.withMemory μ).pc.toNat + 2 < capacity := inside
      by_cases bottom : s.sp = 0
      · rw [execute_call_of_eq rs inside bottom, execute_call_of_eq rs inside' (sp.trans bottom),
          store?, if_pos inside, if_pos bottom]
        rfl
      · rw [execute_call_of_ne rs inside bottom,
          execute_call_of_ne rs inside' (by rw [sp]; exact bottom), store?, if_pos inside,
          if_neg bottom]
        rfl
    · have outside : ¬ (s.withMemory μ).pc.toNat + 2 < capacity := inside
      rw [execute_call_of_outside rs inside, execute_call_of_outside rs outside, store?,
        if_neg inside]
      rfl
  | ret =>
    by_cases full : s.sp = 255
    · rw [execute_ret_of_eq full, execute_ret_of_eq (sp.trans full), top rfl]
      rfl
    · rw [execute_ret_of_ne full, execute_ret_of_ne (by rw [sp]; exact full), top rfl]
      rfl

/-- The memory after an instruction is the one before it with what the instruction stores. -/
theorem memory_execute [Sink σ] (i : Instruction) (s : State) (out : σ) :
    (i.execute s out).state.memory = s.memory.stored (i.store? s) := by
  have same := execute_withMemory (i := i) (s := s) (μ := s.memory) out fun _ _ => rfl
  exact congrArg (fun e : Effect σ => e.state.memory) same

end Instruction

end ByteMachine
