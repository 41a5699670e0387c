import ByteMachine.Proofs.Machine.Execution

/-
  The stack as a list. Instructions keep their stack in the memory, from the
  address in R7 up to a base. Beside the machine a list is kept that knows
  nothing of the memory: a push or a call puts a value in front of it, a pop or
  a return takes the first value away. What is proved of instructions that do not
  name R7 as their destination and take nothing while R7 is the base:

    1. `exists_use`: what one instruction can do to the stack pointer and to the
       memory, three cases for all instructions.
    2. `Stacked.execute_ok` and `Stacked.executeList`: the list is what the cells
       below the base hold, after one instruction and then after any number.
    3. `exists_match` and `stackOf_balanced`: each value that is taken was put by
       the instruction that matches, however deep the nesting.
    4. `stack_is_list` puts this together for a whole sequence.
-/

namespace ByteMachine

variable {σ : Type}

/-! ## What instructions do to a list -/

namespace Instruction

/-- The register that the instruction names as its destination. -/
def destination? : Instruction → Option Register
  | .ldi rd _ | .pop rd => some rd
  | .alu _ ra _ => some ra
  | .hlt | .prn _ | .push _ | .call _ | .ret => none

/-- The value that the instruction puts on the stack: that of a register, as it is when the
pointer was lowered, or the address behind a call. -/
def stored? (i : Instruction) (s : State) : Option UInt8 :=
  match i with
  | .push rs => some ((s.set .sp (s.sp - 1)).get rs)
  | .call _ => some (s.pc + 2)
  | _ => none

/-- Whether the instruction puts a value on the stack. -/
def puts : Instruction → Bool
  | .push _ | .call _ => true
  | _ => false

/-- Whether the instruction takes a value from the stack. -/
def takes : Instruction → Bool
  | .pop _ | .ret => true
  | _ => false

/-- Where the value went that an instruction took, once it did: a register or the program counter. -/
def obtained? (i : Instruction) (after : State) : Option UInt8 :=
  match i with
  | .pop rd => some (after.get rd)
  | .ret => some after.pc
  | _ => none

/-- The list after the instruction is executed in the state. -/
def onStack (i : Instruction) (s : State) (stack : List UInt8) : List UInt8 :=
  match i.stored? s with
  | some v => v :: stack
  | none => if i.takes then stack.tail else stack

theorem isSome_stored? (i : Instruction) (s : State) : (i.stored? s).isSome = i.puts := by
  cases i <;> rfl

theorem onStack_of_idle {i : Instruction} (puts : i.puts = false) (takes : i.takes = false)
    (s : State) (stack : List UInt8) : i.onStack s stack = stack := by
  cases i with
  | push rs | call rs => cases puts
  | pop rd | ret => cases takes
  | hlt | ldi rd imm | prn rs | alu op ra rb => rfl

theorem onStack_of_takes {i : Instruction} (takes : i.takes = true) (s : State)
    (stack : List UInt8) : i.onStack s stack = stack.tail := by
  cases i with
  | pop rd | ret => rfl
  | hlt | ldi rd imm | prn rs | alu op ra rb | push rs | call rs => cases takes

end Instruction

/-- The list after the instructions in turn. One with a fault counts only if it moved the pointer. -/
def stackOf [Sink σ] : List Instruction → State → σ → List UInt8 → List UInt8
  | [], _, _, stack => stack
  | i :: is, s, out, stack =>
    match (i.execute s out).fault with
    | none => stackOf is (i.execute s out).state (i.execute s out).sink (i.onStack s stack)
    | some _ => if (i.execute s out).state.sp = s.sp then stack else i.onStack s stack

section Lists
variable [Sink σ] {i : Instruction} {is : List Instruction} {s : State} {out : σ} {stack : List UInt8}

theorem stackOf_cons_of_ok (h : (i.execute s out).fault = none) : stackOf (i :: is) s out stack =
    stackOf is (i.execute s out).state (i.execute s out).sink (i.onStack s stack) := by
  rw [stackOf, h]

theorem stackOf_cons_of_fault {fault : Fault} (h : (i.execute s out).fault = some fault) :
    stackOf (i :: is) s out stack =
      if (i.execute s out).state.sp = s.sp then stack else i.onStack s stack := by
  rw [stackOf, h]

theorem stackOf_append_of_ok (h : (executeList is s out).fault = none) (js : List Instruction) :
    stackOf (is ++ js) s out stack =
      stackOf js (executeList is s out).state (executeList is s out).sink
        (stackOf is s out stack) := by
  induction is generalizing s out stack with
  | nil => rfl
  | cons i is ih =>
    cases first : (i.execute s out).fault with
    | none =>
      rw [executeList_cons_of_ok first] at h ⊢
      rw [List.cons_append, stackOf_cons_of_ok first, stackOf_cons_of_ok first]
      exact ih h
    | some fault =>
      rw [executeList_cons_of_fault first, first] at h
      cases h

end Lists

/-! ## What instructions do to the machine -/

/-- What an effect on a state can be, as far as the stack goes. -/
inductive StackUse (i : Instruction) (s : State) (e : Effect σ) : Prop where
  /-- The stack is left alone, by an instruction without a say in it or by one with a fault. -/
  | keep (sp : e.state.sp = s.sp) (memory : e.state.memory = s.memory)
    (idle : e.fault = none → i.stored? s = none ∧ i.takes = false)
    (full : i.takes = true → s.sp = 255)
  /-- A value is put on it. -/
  | put (v : UInt8) (stored : i.stored? s = some v) (room : s.sp ≠ 0)
    (sp : e.state.sp = s.sp - 1) (memory : e.state.memory = s.memory.write (s.sp - 1) v)
  /-- Its top is taken away. -/
  | take (stored : i.stored? s = none) (taken : i.takes = true) (below : s.sp ≠ 255)
    (sp : e.state.sp = s.sp + 1) (memory : e.state.memory = s.memory)
    (obtained : i.obtained? e.state = some s.top)

theorem sp_set_of_ne {s : State} {r : Register} (v : UInt8) (h : some r ≠ some Register.sp) :
    (s.set r v).sp = s.sp :=
  Registers.get_set_ne s.registers v fun e => h (congrArg some e)

/-- There is no other use of the stack, if R7 is not the destination. -/
theorem exists_use [Sink σ] {i : Instruction} (kept : i.destination? ≠ some .sp) (s : State)
    (out : σ) : StackUse i s (i.execute s out) := by
  have idle : ∀ {p : Prop}, false = true → p := fun h => absurd h Bool.false_ne_true
  have failed : ∀ {p : Prop} {f : Fault}, some f = none → p :=
    fun h => absurd h (Option.some_ne_none _)
  cases i with
  | hlt => exact .keep rfl rfl (fun _ => ⟨rfl, rfl⟩) idle
  | ldi rd imm =>
    refine .keep ?_ ?_ (fun _ => ⟨rfl, rfl⟩) idle
    · rw [Instruction.execute, Instruction.sp_advance, sp_set_of_ne imm kept]
    · rw [Instruction.execute, Instruction.memory_advance]
      rfl
  | alu op ra rb =>
    refine .keep ?_ ?_ (fun _ => ⟨rfl, rfl⟩) idle
    · rw [Instruction.execute, Instruction.sp_advance]
      exact sp_set_of_ne _ kept
    · rw [Instruction.execute, Instruction.memory_advance]
  | prn rs =>
    simp only [Instruction.execute]
    split
    · exact .keep (by simp) (by simp) (fun _ => ⟨rfl, rfl⟩) idle
    · exact .keep rfl rfl (fun _ => ⟨rfl, rfl⟩) idle
  | push rs =>
    by_cases bottom : s.sp = 0
    · rw [execute_push_of_eq rs bottom]
      exact .keep rfl rfl failed idle
    · rw [execute_push_of_ne rs bottom]
      exact .put _ rfl bottom (by simp) (by simp)
  | pop rd =>
    have same : (s.set rd s.top).sp = s.sp := sp_set_of_ne s.top kept
    by_cases full : s.sp = 255
    · rw [execute_pop_of_eq rd (by rw [same]; exact full)]
      exact .keep same rfl failed (fun _ => full)
    · -- The pointer is raised after the register is written, which is not R7.
      rw [execute_pop_of_ne rd (by rw [same]; exact full), same]
      refine .take rfl rfl full ?_ ?_ ?_
      · rw [Instruction.sp_advance]
        exact Registers.get_set_self ..
      · rw [Instruction.memory_advance]
        rfl
      · have apart : Register.sp ≠ rd := fun e => kept (congrArg some e.symm)
        rw [Instruction.obtained?, Instruction.get_advance, State.get_set, if_neg apart,
          State.get_set, if_pos rfl]
  | call rs =>
    by_cases inside : s.pc.toNat + 2 < capacity
    · by_cases bottom : s.sp = 0
      · rw [execute_call_of_eq rs inside bottom]
        exact .keep rfl rfl failed idle
      · rw [execute_call_of_ne rs inside bottom]
        exact .put (s.pc + 2) rfl bottom (s.sp_pushed (s.pc + 2)) rfl
    · rw [execute_call_of_outside rs inside]
      exact .keep rfl rfl failed idle
  | ret =>
    by_cases full : s.sp = 255
    · rw [execute_ret_of_eq full]
      exact .keep rfl rfl failed (fun _ => full)
    · rw [execute_ret_of_ne full]
      exact .take rfl rfl full (Registers.get_set_self ..) rfl rfl

/-! ## The cells of the stack -/

namespace Memory

theorem length_slice {m : Memory} {start count : Nat} (h : start + count ≤ capacity) :
    (m.slice start count).length = count := by
  rw [slice_eq_take_drop, List.length_take, List.length_drop, length_toList]
  omega

/-- A slice does not hold what is written in front of it. -/
theorem slice_write {m : Memory} {a v : UInt8} {start : Nat} (h : a.toNat < start) (count : Nat) :
    (m.write a v).slice start count = m.slice start count := by
  induction count generalizing start with
  | zero => rfl
  | succ count ih =>
    have front : (m.write a v).get? start = m.get? start := by
      rw [get?, get?, write, Vector.getElem?_set, if_neg (by omega)]
    rw [slice_succ, slice_succ, front, ih (by omega)]

end Memory

namespace State

/-- The cells from the top of the stack up to the base. -/
def cells (s : State) (base : UInt8) : List UInt8 :=
  s.memory.slice s.sp.toNat (base.toNat - s.sp.toNat)

theorem cells_of_keep {s t : State} (sp : t.sp = s.sp) (memory : t.memory = s.memory)
    (base : UInt8) : t.cells base = s.cells base := by
  rw [cells, cells, sp, memory]

theorem cells_of_put {s t : State} {base v : UInt8} (room : s.sp ≠ 0) (sp : t.sp = s.sp - 1)
    (memory : t.memory = s.memory.write (s.sp - 1) v) (le : s.sp.toNat ≤ base.toNat) :
    t.cells base = v :: s.cells base := by
  have lowered := toNat_sub_one room
  have count : base.toNat - (s.sp - 1).toNat = base.toNat - s.sp.toNat + 1 := by omega
  rw [cells, cells, sp, memory, count, Memory.slice_succ, Memory.get?_eq_read,
    Memory.read_write_self, lowered, Memory.slice_write (by omega)]
  rfl

theorem cells_of_take {s t : State} {base : UInt8} (below : s.sp ≠ 255) (sp : t.sp = s.sp + 1)
    (memory : t.memory = s.memory) (lt : s.sp.toNat < base.toNat) :
    s.cells base = s.top :: t.cells base := by
  have raised := toNat_add_one below
  have count : base.toNat - s.sp.toNat = base.toNat - (s.sp + 1).toNat + 1 := by omega
  rw [cells, cells, sp, memory, count, Memory.slice_succ, Memory.get?_eq_read, raised]
  rfl

end State

/-! ## The list and the cells -/

/-- Whether the list is what the cells from the top of the stack up to the base hold. -/
structure Stacked (base : UInt8) (s : State) (stack : List UInt8) : Prop where
  cells : s.cells base = stack
  le : s.sp.toNat ≤ base.toNat

namespace Stacked

variable {base : UInt8} {s : State} {stack : List UInt8}

theorem length (h : Stacked base s stack) : stack.length = base.toNat - s.sp.toNat := by
  have := base.toNat_lt
  have := h.le
  rw [← h.cells, State.cells, Memory.length_slice]
  rw [capacity]
  omega

/-- The stack is full when the pointer is at 0. -/
theorem length_eq_iff (h : Stacked base s stack) : stack.length = base.toNat ↔ s.sp = 0 := by
  have := h.le
  rw [h.length, ← UInt8.toNat_inj, show (0 : UInt8).toNat = 0 from rfl]
  omega

/-- At a base the list is empty. -/
theorem start (h : s.sp = base) : Stacked base s [] := by
  refine ⟨?_, Nat.le_of_eq (congrArg UInt8.toNat h)⟩
  rw [State.cells, h, Nat.sub_self]
  rfl

/-- Where a value is taken above the base, the list has the value in front. -/
theorem take_ne (h : Stacked base s stack) (above : s.sp ≠ base) : s.sp.toNat < base.toNat := by
  have := h.le
  have : s.sp.toNat ≠ base.toNat := fun e => above (UInt8.toNat_inj.mp e)
  omega

variable [Sink σ] {i : Instruction} {out : σ}

/-- What an instruction does to the cells, its use of the stack does to the list. -/
theorem execute (h : Stacked base s stack) (kept : i.destination? ≠ some .sp)
    (nonempty : i.takes = true → s.sp ≠ base) :
    Stacked base (i.execute s out).state
      (if (i.execute s out).state.sp = s.sp then stack else i.onStack s stack) := by
  have le := h.le
  cases exists_use kept s out with
  | keep sp memory idle full =>
    rw [if_pos sp]
    exact ⟨by rw [State.cells_of_keep sp memory, h.cells], by rw [sp]; exact le⟩
  | put v stored room sp memory =>
    have lowered := State.toNat_sub_one room
    have moved : (i.execute s out).state.sp ≠ s.sp := by rw [sp]; exact State.sub_one_ne room
    rw [if_neg moved, Instruction.onStack, stored]
    refine ⟨?_, ?_⟩
    · rw [State.cells_of_put room sp memory le, h.cells]
    · rw [sp]
      omega
  | take stored taken below sp memory obtained =>
    have lt := h.take_ne (nonempty taken)
    have raised := State.toNat_add_one below
    have moved : (i.execute s out).state.sp ≠ s.sp := by rw [sp]; exact State.add_one_ne below
    rw [if_neg moved, Instruction.onStack, stored, taken]
    refine ⟨?_, ?_⟩
    · rw [← h.cells, State.cells_of_take below sp memory lt]
      rfl
    · rw [sp]
      omega

/-- Without a fault the list is the one that the instruction leaves. -/
theorem execute_ok (h : Stacked base s stack) (kept : i.destination? ≠ some .sp)
    (nonempty : i.takes = true → s.sp ≠ base) (ok : (i.execute s out).fault = none) :
    Stacked base (i.execute s out).state (i.onStack s stack) := by
  have used : Stacked base (i.execute s out).state
      (if (i.execute s out).state.sp = s.sp then stack else i.onStack s stack) :=
    h.execute kept nonempty
  cases exists_use kept s out with
  | keep sp memory idle full =>
    obtain ⟨stored, taken⟩ := idle ok
    rw [if_pos sp] at used
    rw [Instruction.onStack, stored, taken]
    exact used
  | put v stored room sp memory =>
    rwa [if_neg (by rw [sp]; exact State.sub_one_ne room)] at used
  | take stored taken below sp memory obtained =>
    rwa [if_neg (by rw [sp]; exact State.add_one_ne below)] at used

end Stacked

/-- No instruction changes a cell at the base or above it. -/
theorem read_execute_of_ge [Sink σ] {i : Instruction} {s : State} {out : σ} {base a : UInt8}
    (kept : i.destination? ≠ some .sp) (le : s.sp.toNat ≤ base.toNat) (ha : base.toNat ≤ a.toNat) :
    (i.execute s out).state.memory.read a = s.memory.read a := by
  cases exists_use kept s out with
  | keep sp memory idle full => rw [memory]
  | put v stored room sp memory =>
    have lowered := State.toNat_sub_one room
    have apart : s.sp - 1 ≠ a := by
      rw [Ne, ← UInt8.toNat_inj]
      omega
    rw [memory, Memory.read_write_ne s.memory v apart]
  | take stored taken below sp memory obtained => rw [memory]

/-! ## Sequences -/

/-- Whether no value is taken while the stack pointer is the base. -/
def NeverEmpty [Sink σ] (base : UInt8) (is : List Instruction) (s : State) (out : σ) : Prop :=
  ∀ k i, is[k]? = some i → i.takes = true → (executeList (is.take k) s out).fault = none →
    (executeList (is.take k) s out).state.sp ≠ base

section Sequences
variable [Sink σ] {base : UInt8} {i : Instruction} {is : List Instruction} {s : State} {out : σ}
  {stack : List UInt8}

theorem NeverEmpty.head (h : NeverEmpty base (i :: is) s out) (taken : i.takes = true) :
    s.sp ≠ base :=
  h 0 i rfl taken rfl

theorem NeverEmpty.tail (h : NeverEmpty base (i :: is) s out)
    (ok : (i.execute s out).fault = none) :
    NeverEmpty base is (i.execute s out).state (i.execute s out).sink := by
  intro k j hj taken front
  have later := h (k + 1) j hj taken
  rw [List.take_succ_cons, executeList_cons_of_ok ok] at later
  exact later front

theorem NeverEmpty.take (h : NeverEmpty base is s out) (n : Nat) :
    NeverEmpty base (is.take n) s out := by
  intro k j hj taken front
  rw [List.getElem?_take] at hj
  split at hj
  · next below =>
    rw [List.take_take, Nat.min_eq_left (Nat.le_of_lt below)] at front ⊢
    exact h k j hj taken front
  · cases hj

/-- What instructions in turn do to the cells, their use of the stack does to the list. -/
theorem Stacked.executeList (h : Stacked base s stack)
    (kept : ∀ i ∈ is, i.destination? ≠ some .sp) (never : NeverEmpty base is s out) :
    Stacked base (executeList is s out).state (stackOf is s out stack) ∧
      ∀ a : UInt8, base.toNat ≤ a.toNat →
        (ByteMachine.executeList is s out).state.memory.read a = s.memory.read a := by
  induction is generalizing s out stack with
  | nil => exact ⟨h, fun _ _ => rfl⟩
  | cons i is ih =>
    rw [List.forall_mem_cons] at kept
    have above : ∀ a : UInt8, base.toNat ≤ a.toNat →
        (i.execute s out).state.memory.read a = s.memory.read a :=
      fun a => read_execute_of_ge kept.1 h.le
    cases first : (i.execute s out).fault with
    | none =>
      have next := h.execute_ok kept.1 never.head first
      obtain ⟨cells, rest⟩ := ih next kept.2 (never.tail first)
      rw [executeList_cons_of_ok first, stackOf_cons_of_ok first]
      exact ⟨cells, fun a ha => (rest a ha).trans (above a ha)⟩
    | some fault =>
      rw [executeList_cons_of_fault first, stackOf_cons_of_fault first]
      exact ⟨h.execute kept.1 never.head, above⟩

end Sequences

/-! ## Matching instructions -/

/-- Whether each value that the instructions put is taken by one of them that comes later, and
nothing else is taken. -/
inductive Balanced : List Instruction → Prop where
  | nil : Balanced []
  | idle {i : Instruction} {is : List Instruction} (puts : i.puts = false) (takes : i.takes = false)
    (rest : Balanced is) : Balanced (i :: is)
  | nest {p t : Instruction} {mid is : List Instruction} (puts : p.puts = true)
    (takes : t.takes = true) (inner : Balanced mid) (rest : Balanced is) :
    Balanced (p :: (mid ++ t :: is))

theorem Balanced.append {is js : List Instruction} (h : Balanced is) (h' : Balanced js) :
    Balanced (is ++ js) := by
  induction h with
  | nil => exact h'
  | idle puts takes _ ih => exact .idle puts takes ih
  | nest puts takes inner _ _ ih =>
    rw [List.cons_append, List.append_assoc, List.cons_append]
    exact .nest puts takes inner ih

section Matching
variable [Sink σ] {is : List Instruction} {s : State} {out : σ}

/-- Balanced instructions leave the list as it was. -/
theorem stackOf_balanced (h : Balanced is) {stack : List UInt8}
    (ok : (executeList is s out).fault = none) : stackOf is s out stack = stack := by
  induction h generalizing s out stack with
  | nil => rfl
  | @idle i is puts takes _ ih =>
    obtain ⟨first, others⟩ := ok_of_ok_cons ok
    rw [stackOf_cons_of_ok first, Instruction.onStack_of_idle puts takes]
    exact ih others
  | @nest p t mid is puts takes _ _ ihMid ihRest =>
    obtain ⟨v, stored⟩ := Option.isSome_iff_exists.mp ((p.isSome_stored? s).trans puts)
    obtain ⟨first, others⟩ := ok_of_ok_cons ok
    obtain ⟨inner, others⟩ := ok_of_ok_append others
    obtain ⟨last, rest⟩ := ok_of_ok_cons others
    have front : p.onStack s stack = v :: stack := by rw [Instruction.onStack, stored]
    rw [stackOf_cons_of_ok first, stackOf_append_of_ok inner, stackOf_cons_of_ok last, front,
      ihMid inner, Instruction.onStack_of_takes takes]
    exact ihRest rest

/-- What is left in a list was put by an instruction with balanced ones behind it. -/
theorem exists_match (ok : (executeList is s out).fault = none) {v : UInt8} {rest : List UInt8}
    (top : stackOf is s out [] = v :: rest) :
    ∃ before p mid, is = before ++ p :: mid ∧ p.stored? (executeList before s out).state = some v ∧
      Balanced mid ∧ stackOf before s out [] = rest := by
  -- An instruction that takes a value needs two matches: its own, and below it that of the value
  -- left, which is in the part before the first. So the induction is on the length.
  induction count : is.length using Nat.strongRecOn generalizing is v rest with
  | ind n ih =>
    rcases List.eq_nil_or_concat is with rfl | ⟨js, i, rfl⟩
    · cases top
    rw [List.concat_eq_append] at *
    obtain ⟨front, last⟩ := ok_of_ok_append ok
    rw [executeList_singleton] at last
    rw [stackOf_append_of_ok front, stackOf_cons_of_ok last, stackOf] at top
    rw [List.length_append, List.length_singleton] at count
    cases stored : i.stored? (executeList js s out).state with
    | some w =>
      rw [Instruction.onStack, stored] at top
      cases top
      exact ⟨js, i, [], rfl, stored, .nil, rfl⟩
    | none =>
      have idle : i.puts = false := by
        rw [← i.isSome_stored? (executeList js s out).state, stored]
        rfl
      cases taken : i.takes with
      | false =>
        rw [Instruction.onStack_of_idle idle taken] at top
        obtain ⟨before, p, mid, rfl, put, inner, left⟩ := ih js.length (by omega) front top rfl
        refine ⟨before, p, mid ++ [i], ?_, put, inner.append (.idle idle taken .nil), left⟩
        rw [List.append_assoc, List.cons_append]
      | true =>
        -- What was taken had a match, and below it lies what is left.
        rw [Instruction.onStack_of_takes taken] at top
        obtain ⟨w, same⟩ : ∃ w, stackOf js s out [] = w :: v :: rest := by
          cases whole : stackOf js s out [] with
          | nil => rw [whole] at top; cases top
          | cons w tail => rw [whole] at top; exact ⟨w, congrArg (w :: ·) top⟩
        obtain ⟨between, q, inside, rfl, match', inner, below⟩ :=
          ih js.length (by omega) front same rfl
        have earlier := (ok_of_ok_append front).1
        rw [List.length_append] at count
        obtain ⟨before, p, mid, rfl, put, outer, left⟩ :=
          ih between.length (by omega) earlier below rfl
        have puts : q.puts = true := by rw [← q.isSome_stored?, match']; rfl
        refine ⟨before, p, mid ++ q :: (inside ++ [i]), ?_, put,
          outer.append (.nest puts taken inner .nil), left⟩
        simp

end Matching

/-! ## Where instructions fail -/

section Faults
variable [Sink σ] {base : UInt8} {i : Instruction} {s : State} {out : σ} {stack : List UInt8}

/-- An instruction that puts a value and is no call too close to the end fails on the stack
pointer just if the pointer is at 0. -/
theorem fault_put_iff (puts : i.puts = true) (inside : ∀ rs, i = .call rs → s.pc.toNat ≤ 253) :
    (i.execute s out).fault = i.outOfRange s (-1) ↔ s.sp = 0 := by
  -- The other fault of these instructions is an address past the end, which is not negative.
  have other : ∀ n : Nat, i.outOfRange s n ≠ i.outOfRange s (-1) := by
    intro n same
    simp only [Instruction.outOfRange, Option.some.injEq, Fault.addressOutOfRange.injEq] at same
    omega
  by_cases bottom : s.sp = 0
  · refine iff_of_true ?_ bottom
    cases i with
    | push rs => rw [execute_push_of_eq rs bottom]
    | call rs =>
      have := inside rs rfl
      rw [execute_call_of_eq rs (by rw [capacity]; omega) bottom]
    | hlt | ldi rd imm | prn rs | alu op ra rb | pop rd | ret => cases puts
  · refine iff_of_false ?_ bottom
    cases i with
    | push rs =>
      rw [execute_push_of_ne rs bottom, Instruction.fault_advance]
      split
      · exact (Option.some_ne_none _).symm
      · exact other _
    | call rs =>
      have := inside rs rfl
      rw [execute_call_of_ne rs (by rw [capacity]; omega) bottom]
      exact (Option.some_ne_none _).symm
    | hlt | ldi rd imm | prn rs | alu op ra rb | pop rd | ret => cases puts

/-- An instruction that takes a value below address 255 fails only where its own end is outside
the memory, and a return not even there. -/
theorem fault_take_iff (takes : i.takes = true) (kept : i.destination? ≠ some .sp)
    (below : s.sp ≠ 255) :
    (i.execute s out).fault = none ↔ i = .ret ∨ s.pc.toNat ≤ 253 := by
  cases i with
  | pop rd =>
    have same : (s.set rd s.top).sp = s.sp := sp_set_of_ne s.top kept
    rw [execute_pop_of_ne rd (by rw [same]; exact below), Instruction.fault_advance_eq_none_iff,
      size_pop, capacity]
    constructor
    · intro h
      have h : s.pc.toNat + 2 < 256 := h
      exact .inr (by omega)
    · rintro (h | h)
      · cases h
      · show s.pc.toNat + 2 < 256
        omega
  | ret =>
    rw [execute_ret_of_ne below]
    exact iff_of_true rfl (.inl rfl)
  | hlt | ldi rd imm | prn rs | alu op ra rb | push rs | call rs => cases takes

/-- An instruction that takes a value above an empty stack gets the first one of the list. -/
theorem Stacked.obtained (h : Stacked base s stack) (takes : i.takes = true)
    (kept : i.destination? ≠ some .sp) (above : s.sp ≠ base) :
    (i.execute s out).state.sp = s.sp + 1 ∧ s.sp ≠ 255 ∧
      ∃ v rest, stack = v :: rest ∧ i.obtained? (i.execute s out).state = some v := by
  have lt := h.take_ne above
  have top := base.toNat_lt
  have below : s.sp ≠ 255 := by
    intro e
    have : s.sp.toNat = 255 := by rw [e]; rfl
    omega
  cases exists_use kept s out with
  | keep sp memory idle full => exact absurd (full takes) below
  | put v stored room sp memory =>
    have none : i.puts = true := by rw [← i.isSome_stored? s, stored]; rfl
    cases i with
    | pop rd | ret => cases none
    | hlt | ldi rd imm | prn rs | alu op ra rb | push rs | call rs => cases takes
  | take stored taken below' sp memory obtained =>
    refine ⟨sp, below, s.top, (i.execute s out).state.cells base, ?_, obtained⟩
    rw [← h.cells, State.cells_of_take below sp memory lt]

end Faults

/-! ## The stack of a sequence -/

section Whole
variable [Sink σ]

/-- The effect of the first `k` instructions. -/
def effectAt (is : List Instruction) (s : State) (out : σ) (k : Nat) : Effect σ :=
  executeList (is.take k) s out

/-- The list after the first `k` instructions. -/
def stackAt (is : List Instruction) (s : State) (out : σ) (k : Nat) : List UInt8 :=
  stackOf (is.take k) s out []

/-- What it means that instructions, executed in turn from the state, keep their stack as a list. -/
structure OnList (base : UInt8) (is : List Instruction) (s : State) (out : σ) : Prop where
  /-- The list is what the cells from the top of the stack up to the base hold. -/
  cells : ∀ k, (effectAt is s out k).state.cells base = stackAt is s out k
  /-- The list changes only as the instructions say. -/
  step : ∀ k i, is[k]? = some i → (effectAt is s out k).fault = none →
    (effectAt is s out (k + 1)).fault = none →
    stackAt is s out (k + 1) = i.onStack (effectAt is s out k).state (stackAt is s out k)
  /-- The stack pointer stays at the base or below. -/
  pointer : ∀ k, (effectAt is s out k).state.sp ≤ base
  /-- The cells at the base and above keep their values. -/
  above : ∀ k a, base ≤ a → (effectAt is s out k).state.memory.read a = s.memory.read a
  /-- Taking a value raises the pointer and moves the first value of the list to its place. It
  fails at most because the next instruction would be outside the memory. -/
  takes : ∀ k i, is[k]? = some i → i.takes = true → (effectAt is s out k).fault = none →
    (effectAt is s out (k + 1)).state.sp = (effectAt is s out k).state.sp + 1 ∧
    (effectAt is s out k).state.sp ≠ 255 ∧
    (stackAt is s out k).head? = i.obtained? (effectAt is s out (k + 1)).state ∧
    ((effectAt is s out (k + 1)).fault = none ↔
      i = .ret ∨ (effectAt is s out k).state.pc.toNat ≤ 253)
  /-- Putting a value fails on the pointer just if the list has as many values as the base allows. -/
  puts : ∀ k i, is[k]? = some i → i.puts = true → (effectAt is s out k).fault = none →
    (∀ rs, i = .call rs → (effectAt is s out k).state.pc.toNat ≤ 253) →
    ((effectAt is s out (k + 1)).fault = i.outOfRange (effectAt is s out k).state (-1) ↔
      (stackAt is s out k).length = base.toNat) ∧
    ((stackAt is s out k).length = base.toNat ↔ (effectAt is s out k).state.sp = 0)
  /-- Every value that is taken was put by an instruction with balanced ones behind it. -/
  matched : ∀ k t, is[k]? = some t → t.takes = true → (effectAt is s out k).fault = none →
    ∃ before p mid v, is.take k = before ++ p :: mid ∧ Balanced mid ∧
      p.stored? (executeList before s out).state = some v ∧
      t.obtained? (effectAt is s out (k + 1)).state = some v
  /-- Whatever instruction has balanced ones behind it, its value is the one that is taken. -/
  matching : ∀ k t before p mid, is[k]? = some t → t.takes = true →
    (effectAt is s out k).fault = none → is.take k = before ++ p :: mid → p.puts = true →
    Balanced mid →
    t.obtained? (effectAt is s out (k + 1)).state = p.stored? (executeList before s out).state

variable {base : UInt8} {is : List Instruction} {s : State} {out : σ} {k : Nat} {i : Instruction}

theorem effectAt_succ (hi : is[k]? = some i) (ok : (effectAt is s out k).fault = none) :
    effectAt is s out (k + 1) = i.execute (effectAt is s out k).state (effectAt is s out k).sink := by
  rw [effectAt, List.take_add_one, hi, Option.toList_some, executeList_append_of_ok ok,
    executeList_singleton]
  rfl

theorem stackAt_succ (hi : is[k]? = some i) (ok : (effectAt is s out k).fault = none)
    (next : (effectAt is s out (k + 1)).fault = none) :
    stackAt is s out (k + 1) = i.onStack (effectAt is s out k).state (stackAt is s out k) := by
  rw [effectAt_succ hi ok] at next
  rw [stackAt, List.take_add_one, hi, Option.toList_some, stackOf_append_of_ok ok]
  exact stackOf_cons_of_ok next

/-- A value with balanced instructions behind it is in front of the list. -/
theorem stackOf_match {before mid : List Instruction} {p : Instruction} {v : UInt8}
    (ok : (executeList (before ++ p :: mid) s out).fault = none)
    (put : p.stored? (executeList before s out).state = some v) (inner : Balanced mid)
    (stack : List UInt8) :
    stackOf (before ++ p :: mid) s out stack = v :: stackOf before s out stack := by
  obtain ⟨front, back⟩ := ok_of_ok_append ok
  obtain ⟨first, rest⟩ := ok_of_ok_cons back
  rw [stackOf_append_of_ok front, stackOf_cons_of_ok first, stackOf_balanced inner rest,
    Instruction.onStack, put]

/-- Instructions that start with the pointer at the base, never name R7 as their destination and
never take a value there keep their stack as a list. -/
theorem stack_is_list (start : s.sp = base) (kept : ∀ i ∈ is, i.destination? ≠ some .sp)
    (never : NeverEmpty base is s out) : OnList base is s out := by
  -- Every part from the front is a sequence of the same kind.
  have run : ∀ k, Stacked base (effectAt is s out k).state (stackAt is s out k) ∧
      ∀ a : UInt8, base.toNat ≤ a.toNat →
        (effectAt is s out k).state.memory.read a = s.memory.read a := fun k =>
    (Stacked.start start).executeList (fun i hi => kept i (List.mem_of_mem_take hi)) (never.take k)
  have own : ∀ (k : Nat) (i : Instruction), is[k]? = some i → i.destination? ≠ some .sp :=
    fun k i hi => kept i (List.mem_of_getElem? hi)
  have taken : ∀ (k : Nat) (i : Instruction), is[k]? = some i → i.takes = true →
      (effectAt is s out k).fault = none →
      (effectAt is s out (k + 1)).state.sp = (effectAt is s out k).state.sp + 1 ∧
      (effectAt is s out k).state.sp ≠ 255 ∧
      ∃ v rest, stackAt is s out k = v :: rest ∧
        i.obtained? (effectAt is s out (k + 1)).state = some v := by
    intro k i hi takes ok
    rw [effectAt_succ hi ok]
    exact (run k).1.obtained takes (own k i hi) (never k i hi takes ok)
  refine ⟨fun k => (run k).1.cells, fun k i => stackAt_succ, fun k => ?_, fun k a ha => ?_, ?_, ?_,
    ?_, ?_⟩
  · exact UInt8.le_iff_toNat_le.mpr (run k).1.le
  · exact (run k).2 a (UInt8.le_iff_toNat_le.mp ha)
  · intro k i hi takes ok
    obtain ⟨raised, below, v, rest, list, obtained⟩ := taken k i hi takes ok
    refine ⟨raised, below, by rw [list, obtained]; rfl, ?_⟩
    rw [effectAt_succ hi ok]
    exact fault_take_iff takes (own k i hi) below
  · intro k i hi puts ok inside
    have full := (run k).1.length_eq_iff
    rw [effectAt_succ hi ok]
    exact ⟨(fault_put_iff puts inside).trans full.symm, full⟩
  · intro k t ht takes ok
    obtain ⟨-, -, v, rest, list, obtained⟩ := taken k t ht takes ok
    obtain ⟨before, p, mid, parts, put, inner, -⟩ := exists_match ok list
    exact ⟨before, p, mid, v, parts, inner, put, obtained⟩
  · intro k t before p mid ht takes ok parts puts inner
    obtain ⟨-, -, v, rest, list, obtained⟩ := taken k t ht takes ok
    obtain ⟨w, put⟩ :=
      Option.isSome_iff_exists.mp ((p.isSome_stored? (executeList before s out).state).trans puts)
    rw [effectAt, parts] at ok
    rw [stackAt, parts, stackOf_match ok put inner] at list
    cases list
    rw [obtained, put]

/-- A call and its return between a push and its pop. -/
theorem stack_is_list_call_inside_push :
    (State.initial defaultStackTop).sp = defaultStackTop ∧
    NeverEmpty defaultStackTop [.push ⟨1⟩, .call ⟨1⟩, .ret, .pop ⟨2⟩] (State.initial defaultStackTop)
      Printed.empty ∧
    OnList defaultStackTop [.push ⟨1⟩, .call ⟨1⟩, .ret, .pop ⟨2⟩] (State.initial defaultStackTop)
      Printed.empty := by
  have start : (State.initial defaultStackTop).sp = defaultStackTop := by decide +kernel
  have never : NeverEmpty defaultStackTop [.push ⟨1⟩, .call ⟨1⟩, .ret, .pop ⟨2⟩]
      (State.initial defaultStackTop) Printed.empty := by
    intro k i hi takes _
    rcases k with _ | _ | _ | _ | k
    · cases hi; cases takes
    · cases hi; cases takes
    · decide +kernel
    · decide +kernel
    · cases hi
  exact ⟨start, never, stack_is_list start (by decide) never⟩

end Whole

end ByteMachine
