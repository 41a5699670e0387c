import ByteMachine.Machine.Execute

/-
  Instructions executed one after the other, up to the first fault. This is the
  machine without its memory of instructions: nothing is fetched and nothing is
  counted. The rules for each instruction that later files rest on come first:
  what the end of an instruction changes, what a push and a raised pointer
  change, and that the number of cycles has no part in any of it.
-/

namespace ByteMachine

variable {σ : Type}

namespace Instruction

/-! ## The end of an instruction -/

section Advance
variable (i : Instruction) (s : State) (out : σ)

theorem advance_eq : i.advance s out =
    ⟨{ s with
        pc := if s.pc.toNat + i.size < capacity then UInt8.ofNat (s.pc.toNat + i.size) else s.pc },
      out,
      if s.pc.toNat + i.size < capacity then none
        else i.outOfRange s (s.pc.toNat + i.size : Nat)⟩ := by
  unfold advance
  dsimp only
  split <;> rfl

@[simp] theorem registers_advance : (i.advance s out).state.registers = s.registers := by
  rw [advance_eq]

@[simp] theorem get_advance (r : Register) : (i.advance s out).state.get r = s.get r := by
  rw [State.get, registers_advance, State.get]

@[simp] theorem sp_advance : (i.advance s out).state.sp = s.sp := i.get_advance s out .sp

@[simp] theorem memory_advance : (i.advance s out).state.memory = s.memory := by
  rw [advance_eq]

@[simp] theorem status_advance : (i.advance s out).state.status = s.status := by
  rw [advance_eq]

@[simp] theorem sink_advance : (i.advance s out).sink = out := by
  rw [advance_eq]

theorem fault_advance : (i.advance s out).fault =
    if s.pc.toNat + i.size < capacity then none
    else i.outOfRange s (s.pc.toNat + i.size : Nat) := by
  rw [advance_eq]

/-- Only leaving the memory is a fault at the end of an instruction. -/
theorem fault_advance_eq_none_iff :
    (i.advance s out).fault = none ↔ s.pc.toNat + i.size < capacity := by
  rw [fault_advance]
  split
  · next h => exact iff_of_true rfl h
  · next h => exact iff_of_false (by simp [outOfRange]) h

end Advance

theorem pc_advance {i : Instruction} {s : State} {out : σ} (h : (i.advance s out).fault = none) :
    (i.advance s out).state.pc.toNat = s.pc.toNat + i.size := by
  have inside := (i.fault_advance_eq_none_iff s out).mp h
  have small : s.pc.toNat + i.size < 256 := inside
  rw [advance_eq, if_pos inside, UInt8.toNat_ofNat', Nat.mod_eq_of_lt small]

end Instruction

/-! ## The stack pointer -/

namespace State

/-- A number that is not 0 is one more than the number in front of it. -/
theorem toNat_sub_one {a : UInt8} (h : a ≠ 0) : (a - 1).toNat + 1 = a.toNat := by
  have pos : a.toNat ≠ 0 := fun e => h (UInt8.toNat_inj.mp e)
  have := a.toNat_lt
  rw [UInt8.toNat_sub, show (1 : UInt8).toNat = 1 from rfl]
  omega

theorem sub_one_ne {a : UInt8} (h : a ≠ 0) : a - 1 ≠ a := by
  have := toNat_sub_one h
  rw [Ne, ← UInt8.toNat_inj]
  omega

theorem toNat_add_one {a : UInt8} (h : a ≠ 255) : (a + 1).toNat = a.toNat + 1 := by
  have below : a.toNat ≠ 255 := fun e => h (UInt8.toNat_inj.mp e)
  have := a.toNat_lt
  rw [UInt8.toNat_add, show (1 : UInt8).toNat = 1 from rfl]
  omega

theorem add_one_ne {a : UInt8} (h : a ≠ 255) : a + 1 ≠ a := by
  have := toNat_add_one h
  rw [Ne, ← UInt8.toNat_inj]
  omega

/-- The state with a value on the stack, when there is room for it. -/
def pushed (s : State) (v : UInt8) : State :=
  { s.set .sp (s.sp - 1) with memory := s.memory.write (s.sp - 1) v }

theorem push_of_ne {s : State} {value : State → UInt8} (h : s.sp ≠ 0) :
    s.push value = some (s.pushed (value (s.set .sp (s.sp - 1)))) := by
  have lowered : (s.set .sp (s.sp - 1)).sp = s.sp - 1 := Registers.get_set_self ..
  rw [push, if_neg h]
  dsimp only
  rw [lowered]
  rfl

theorem push_of_eq {s : State} {value : State → UInt8} (h : s.sp = 0) : s.push value = none :=
  push_eq_none_iff.mpr h

theorem raise_of_ne {s : State} (h : s.sp ≠ 255) : s.raise = some (s.set .sp (s.sp + 1)) :=
  if_neg h

@[simp] theorem sp_pushed (s : State) (v : UInt8) : (s.pushed v).sp = s.sp - 1 :=
  Registers.get_set_self ..

@[simp] theorem memory_pushed (s : State) (v : UInt8) :
    (s.pushed v).memory = s.memory.write (s.sp - 1) v := rfl

@[simp] theorem pc_pushed (s : State) (v : UInt8) : (s.pushed v).pc = s.pc := rfl

@[simp] theorem status_pushed (s : State) (v : UInt8) : (s.pushed v).status = s.status := rfl

end State

/-! ## Instructions that use the stack -/

theorem size_push (rs : Register) : (Instruction.push rs).size = 2 := Opcode.size_eq .push

theorem size_pop (rd : Register) : (Instruction.pop rd).size = 2 := Opcode.size_eq .pop

theorem size_call (rs : Register) : (Instruction.call rs).size = 2 := Opcode.size_eq .call

section Stack
variable [Sink σ] {s : State} {out : σ}

theorem execute_push_of_ne (rs : Register) (h : s.sp ≠ 0) :
    (Instruction.push rs).execute s out =
      (Instruction.push rs).advance (s.pushed ((s.set .sp (s.sp - 1)).get rs)) out := by
  simp only [Instruction.execute, State.push_of_ne h]

theorem execute_push_of_eq (rs : Register) (h : s.sp = 0) :
    (Instruction.push rs).execute s out = ⟨s, out, (Instruction.push rs).outOfRange s (-1)⟩ := by
  simp only [Instruction.execute, State.push_of_eq h]

theorem execute_pop_of_ne (rd : Register) (h : (s.set rd s.top).sp ≠ 255) :
    (Instruction.pop rd).execute s out =
      (Instruction.pop rd).advance
        ((s.set rd s.top).set .sp ((s.set rd s.top).sp + 1)) out := by
  simp only [Instruction.execute, State.raise_of_ne h]

theorem execute_pop_of_eq (rd : Register) (h : (s.set rd s.top).sp = 255) :
    (Instruction.pop rd).execute s out =
      ⟨s.set rd s.top, out, (Instruction.pop rd).outOfRange s capacity⟩ := by
  simp only [Instruction.execute, State.raise_eq_none_iff.mpr h]

theorem execute_call_of_ne (rs : Register) (inside : s.pc.toNat + 2 < capacity) (h : s.sp ≠ 0) :
    (Instruction.call rs).execute s out =
      ⟨{ s.pushed (s.pc + 2) with pc := (s.set .sp (s.sp - 1)).get rs }, out, none⟩ := by
  simp only [Instruction.execute, size_call, if_pos inside, State.push_of_ne h]
  rfl

theorem execute_call_of_eq (rs : Register) (inside : s.pc.toNat + 2 < capacity) (h : s.sp = 0) :
    (Instruction.call rs).execute s out = ⟨s, out, (Instruction.call rs).outOfRange s (-1)⟩ := by
  simp only [Instruction.execute, size_call, if_pos inside, State.push_of_eq h]

theorem execute_call_of_outside (rs : Register) (outside : ¬ s.pc.toNat + 2 < capacity) :
    (Instruction.call rs).execute s out =
      ⟨s, out, (Instruction.call rs).outOfRange s (s.pc.toNat + 2)⟩ := by
  simp only [Instruction.execute, size_call, if_neg outside]
  rfl

theorem execute_ret_of_ne (h : s.sp ≠ 255) :
    Instruction.ret.execute s out = ⟨{ s.set .sp (s.sp + 1) with pc := s.top }, out, none⟩ := by
  have same : State.sp { s with pc := s.top } = s.sp := rfl
  have raised : State.raise { s with pc := s.top } = some { s.set .sp (s.sp + 1) with pc := s.top } :=
    State.raise_of_ne (by rw [same]; exact h)
  simp only [Instruction.execute, raised]

theorem execute_ret_of_eq (h : s.sp = 255) :
    Instruction.ret.execute s out =
      ⟨{ s with pc := s.top }, out, Instruction.ret.outOfRange s capacity⟩ := by
  have none : State.raise { s with pc := s.top } = none := State.raise_eq_none_iff.mpr h
  simp only [Instruction.execute, none]

/-- Only a halt changes the status, and only a print uses the sink. -/
theorem execute_frame (i : Instruction) (s : State) (out : σ) :
    (i = .hlt ∨ (i.execute s out).state.status = s.status) ∧
      ((∃ rs, i = .prn rs) ∨ (i.execute s out).sink = out) := by
  cases i with
  | hlt => exact ⟨.inl rfl, .inr rfl⟩
  | ldi rd imm => refine ⟨.inr ?_, .inr ?_⟩ <;> simp [Instruction.execute, State.set]
  | alu op ra rb => refine ⟨.inr ?_, .inr ?_⟩ <;> simp [Instruction.execute]
  | prn rs =>
    refine ⟨.inr ?_, .inl ⟨rs, rfl⟩⟩
    simp only [Instruction.execute]
    split
    · rw [Instruction.status_advance]
    · rfl
  | push rs =>
    by_cases bottom : s.sp = 0
    · rw [execute_push_of_eq rs bottom]
      exact ⟨.inr rfl, .inr rfl⟩
    · rw [execute_push_of_ne rs bottom, Instruction.status_advance, Instruction.sink_advance]
      exact ⟨.inr rfl, .inr rfl⟩
  | pop rd =>
    by_cases top : (s.set rd s.top).sp = 255
    · rw [execute_pop_of_eq rd top]
      exact ⟨.inr rfl, .inr rfl⟩
    · rw [execute_pop_of_ne rd top, Instruction.status_advance, Instruction.sink_advance]
      exact ⟨.inr rfl, .inr rfl⟩
  | call rs =>
    by_cases inside : s.pc.toNat + 2 < capacity
    · by_cases bottom : s.sp = 0
      · rw [execute_call_of_eq rs inside bottom]
        exact ⟨.inr rfl, .inr rfl⟩
      · rw [execute_call_of_ne rs inside bottom]
        exact ⟨.inr rfl, .inr rfl⟩
    · rw [execute_call_of_outside rs inside]
      exact ⟨.inr rfl, .inr rfl⟩
  | ret =>
    by_cases top : s.sp = 255
    · rw [execute_ret_of_eq top]
      exact ⟨.inr rfl, .inr rfl⟩
    · rw [execute_ret_of_ne top]
      exact ⟨.inr rfl, .inr rfl⟩

theorem status_execute {i : Instruction} (other : i ≠ .hlt) (s : State) (out : σ) :
    (i.execute s out).state.status = s.status :=
  (execute_frame i s out).1.resolve_left other

end Stack

/-! ## The number of cycles -/

/-- The state after another number of cycles. -/
def State.atCycle (s : State) (n : UInt64) : State := { s with cycles := n }

/-- The effect on a state after another number of cycles. -/
def Effect.atCycle (e : Effect σ) (n : UInt64) : Effect σ := { e with state := e.state.atCycle n }

theorem advance_atCycle (i : Instruction) (s : State) (out : σ) (n : UInt64) :
    i.advance (s.atCycle n) out = (i.advance s out).atCycle n := by
  rw [Instruction.advance_eq, Instruction.advance_eq]
  rfl

theorem push_atCycle (s : State) (n : UInt64) {value : State → UInt8}
    (same : ∀ t : State, value (t.atCycle n) = value t) :
    (s.atCycle n).push value = (s.push value).map (·.atCycle n) := by
  have sp : (s.atCycle n).sp = s.sp := rfl
  by_cases h : s.sp = 0
  · rw [State.push_of_eq h, State.push_of_eq (sp.trans h)]
    rfl
  · have stored : value ((s.atCycle n).set .sp ((s.atCycle n).sp - 1)) =
        value (s.set .sp (s.sp - 1)) := same (s.set .sp (s.sp - 1))
    rw [State.push_of_ne h, State.push_of_ne (by rw [sp]; exact h), stored]
    rfl

theorem raise_atCycle (s : State) (n : UInt64) :
    (s.atCycle n).raise = s.raise.map (·.atCycle n) := by
  have sp : (s.atCycle n).sp = s.sp := rfl
  unfold State.raise
  rw [sp]
  split <;> rfl

/-- An instruction does the same after any number of cycles. -/
theorem execute_atCycle [Sink σ] (i : Instruction) (s : State) (out : σ) (n : UInt64) :
    i.execute (s.atCycle n) out = (i.execute s out).atCycle n := by
  cases i with
  | hlt => rfl
  | ldi rd imm => exact advance_atCycle (.ldi rd imm) (s.set rd imm) out n
  | prn rs =>
    -- What the sink does depends on the value printed only.
    have value : (s.atCycle n).get rs = s.get rs := rfl
    simp only [Instruction.execute, value]
    split
    · exact advance_atCycle _ s _ n
    · rfl
  | alu op ra rb =>
    exact advance_atCycle (.alu op ra rb) { s with registers := s.registers.combine op ra rb } out n
  | push rs =>
    simp only [Instruction.execute]
    rw [push_atCycle s n fun _ => rfl]
    cases s.push fun lowered => lowered.get rs with
    | none => rfl
    | some pushed => exact advance_atCycle _ pushed out n
  | pop rd =>
    have loaded : (s.atCycle n).set rd (s.atCycle n).top = (s.set rd s.top).atCycle n := rfl
    simp only [Instruction.execute]
    rw [loaded, raise_atCycle]
    cases (s.set rd s.top).raise with
    | none => rfl
    | some raised => exact advance_atCycle _ raised out n
  | call rs =>
    have pc : (s.atCycle n).pc = s.pc := rfl
    simp only [Instruction.execute, pc]
    rw [push_atCycle s n fun _ => rfl]
    split
    · cases s.push fun _ => s.pc + 2 <;> rfl
    · rfl
  | ret =>
    have returned : { s.atCycle n with pc := (s.atCycle n).top } =
        State.atCycle { s with pc := s.top } n := rfl
    simp only [Instruction.execute]
    rw [returned, raise_atCycle]
    cases State.raise { s with pc := s.top } <;> rfl

/-! ## Lists of instructions -/

/-- The effect of the instructions in turn. The first fault ends it. -/
def executeList [Sink σ] : List Instruction → State → σ → Effect σ
  | [], s, out => ⟨s, out, none⟩
  | i :: is, s, out =>
    match (i.execute s out).fault with
    | none => executeList is (i.execute s out).state (i.execute s out).sink
    | some _ => i.execute s out

section Lists
variable [Sink σ] {s : State} {out : σ}

theorem executeList_cons_of_ok {i : Instruction} (h : (i.execute s out).fault = none)
    (is : List Instruction) : executeList (i :: is) s out =
      executeList is (i.execute s out).state (i.execute s out).sink := by
  rw [executeList, h]

theorem executeList_cons_of_fault {i : Instruction} {fault : Fault}
    (h : (i.execute s out).fault = some fault) (is : List Instruction) :
    executeList (i :: is) s out = i.execute s out := by
  rw [executeList, h]

theorem executeList_singleton (i : Instruction) : executeList [i] s out = i.execute s out := by
  cases h : (i.execute s out).fault with
  | none =>
    rw [executeList_cons_of_ok h, executeList, ← h]
  | some fault => exact executeList_cons_of_fault h []

/-- More instructions go on where the ones before them ended. -/
theorem executeList_append_of_ok {is : List Instruction} (h : (executeList is s out).fault = none)
    (js : List Instruction) : executeList (is ++ js) s out =
      executeList js (executeList is s out).state (executeList is s out).sink := by
  induction is generalizing s out with
  | nil => rfl
  | cons i is ih =>
    cases first : (i.execute s out).fault with
    | none =>
      rw [executeList_cons_of_ok first] at h ⊢
      rw [List.cons_append, executeList_cons_of_ok first]
      exact ih h
    | some fault =>
      rw [executeList_cons_of_fault first, first] at h
      cases h

/-- After a fault no instruction is executed. -/
theorem executeList_append_of_fault {is : List Instruction} {fault : Fault}
    (h : (executeList is s out).fault = some fault) (js : List Instruction) :
    executeList (is ++ js) s out = executeList is s out := by
  induction is generalizing s out with
  | nil => cases h
  | cons i is ih =>
    cases first : (i.execute s out).fault with
    | none =>
      rw [executeList_cons_of_ok first] at h ⊢
      rw [List.cons_append, executeList_cons_of_ok first]
      exact ih h
    | some fault' =>
      rw [List.cons_append, executeList_cons_of_fault first, executeList_cons_of_fault first]

/-- Two parts have no fault if they have none together. -/
theorem ok_of_ok_append {is js : List Instruction} (h : (executeList (is ++ js) s out).fault = none) :
    (executeList is s out).fault = none ∧
      (executeList js (executeList is s out).state (executeList is s out).sink).fault = none := by
  cases front : (executeList is s out).fault with
  | none =>
    rw [executeList_append_of_ok front] at h
    exact ⟨rfl, h⟩
  | some fault =>
    rw [executeList_append_of_fault front, front] at h
    cases h

theorem ok_of_ok_cons {i : Instruction} {is : List Instruction}
    (h : (executeList (i :: is) s out).fault = none) :
    (i.execute s out).fault = none ∧
      (executeList is (i.execute s out).state (i.execute s out).sink).fault = none := by
  have parts := ok_of_ok_append (show (executeList ([i] ++ is) s out).fault = none from h)
  rwa [executeList_singleton] at parts

end Lists

end ByteMachine
