import ByteMachine.Proofs.Machine.Rules
import ByteMachine.Proofs.Machine.Straight

/-
  Saving registers on the stack. In front of instructions that compute with the
  registers stand pushes of some of them, and behind them pops of the same ones in
  the opposite order. A push of R7 stores the lowered pointer, and a pop into R7
  raises the pointer it has loaded; so the two cancel for R7 as well, at any depth:

    1. `completed_of_works`: an instruction that does its work inside the memory does
       not fail and leaves what the rules say.
    2. `kept_by_computing`: what computes leaves the stack pointer and the memory alone.
    3. `Restored.cons` and `restored_of_unhindered`: each push and its pop put one
       register back around all that is between them, by induction on the registers.
    4. `registers_restored` says when the whole fails at all, and adds the case of one
       push and its pop.
-/

namespace ByteMachine

variable {σ : Type}

/-! ## Instructions that are completed -/

namespace Instruction

/-- What an instruction leaves that goes on behind itself without a fault. -/
structure Completed [Sink σ] (i : Instruction) (s : State) (out : σ) : Prop where
  ok : (i.execute s out).fault = none
  registers : ∀ r, (i.execute s out).state.get r = i.registerAfter s r
  cells : ∀ a, (i.execute s out).state.memory.read a = i.cellAfter s a
  pc : (i.execute s out).state.pc.toNat = s.pc.toNat + i.size

section Completed
variable [Sink σ] {i : Instruction} {s : State} {out : σ}

theorem completed_of_works (works : i.Works s out) (inside : s.pc.toNat + i.size < capacity) :
    Completed i s out := by
  obtain ⟨t, same, work⟩ := exists_work works
  have ok : (i.advance t (i.sinkAfter s out)).fault = none := by
    rw [fault_advance_eq_none_iff, work.pc]
    exact inside
  refine ⟨by rw [same]; exact ok, fun r => ?_, fun a => ?_, ?_⟩
  · rw [same, get_advance, work.registers]
  · rw [same, memory_advance, work.cells]
  · rw [same, pc_advance ok, work.pc]

end Completed

/-- Whether the instruction computes with the registers, R7 apart, or prints one. -/
def Computes : Instruction → Prop
  | .ldi rd _ => rd ≠ .sp
  | .alu _ ra _ => ra ≠ .sp
  | .prn _ => True
  | .hlt | .push _ | .pop _ | .call _ | .ret => False

theorem Computes.goesOn {i : Instruction} (h : i.Computes) : i.goesOn = true := by
  cases i with
  | ldi rd imm | alu op ra rb | prn rs => rfl
  | hlt | push rs | pop rd | call rs | ret => exact h.elim

theorem Computes.straight {i : Instruction} (h : i.Computes) : i.Straight := by
  cases i with
  | ldi rd imm | alu op ra rb | prn rs => trivial
  | hlt | push rs | pop rd | call rs | ret => exact h.elim

section Computes
variable [Sink σ] {i : Instruction} {s : State} {out : σ}

/-- It does its work if the sink takes what it prints. -/
theorem Computes.works (h : i.Computes) (accepted : i.Accepted s out) : i.Works s out := by
  cases i with
  | ldi rd imm | alu op ra rb => trivial
  | prn rs => exact accepted rs rfl
  | hlt | push rs | pop rd | call rs | ret => exact h.elim

theorem Computes.registerAfter_sp (h : i.Computes) : i.registerAfter s .sp = s.sp := by
  cases i with
  | ldi rd imm => exact if_neg h
  | alu op ra rb => exact if_neg h
  | prn rs => rfl
  | hlt | push rs | pop rd | call rs | ret => exact h.elim

theorem Computes.cellAfter (h : i.Computes) (a : UInt8) : i.cellAfter s a = s.memory.read a := by
  cases i with
  | ldi rd imm | alu op ra rb | prn rs => rfl
  | hlt | push rs | pop rd | call rs | ret => exact h.elim

theorem accepted_of_works (works : i.Works s out) : i.Accepted s out := by
  rintro rs rfl
  exact works

end Computes

end Instruction

/-! ## Instructions that compute -/

/-- Whether the sink takes everything that the instructions print in turn. -/
def Taken [Sink σ] : List Instruction → State → σ → Prop
  | [], _, _ => True
  | i :: is, s, out =>
    i.Accepted s out ∧ Taken is (i.execute s out).state (i.execute s out).sink

/-- The number of bytes that the instructions take in memory. -/
def sizeOfCode (is : List Instruction) : Nat := (is.flatMap Instruction.encode).length

@[simp] theorem sizeOfCode_nil : sizeOfCode [] = 0 := rfl

@[simp] theorem sizeOfCode_cons (i : Instruction) (is : List Instruction) :
    sizeOfCode (i :: is) = i.size + sizeOfCode is := by
  rw [sizeOfCode, List.flatMap_cons, List.length_append, i.length_encode, sizeOfCode]

@[simp] theorem sizeOfCode_append (is js : List Instruction) :
    sizeOfCode (is ++ js) = sizeOfCode is + sizeOfCode js := by
  rw [sizeOfCode, List.flatMap_append, List.length_append, sizeOfCode, sizeOfCode]

/-- What instructions leave that neither fail nor touch the stack. -/
structure Kept [Sink σ] (is : List Instruction) (s : State) (out : σ) : Prop where
  ok : (executeList is s out).fault = none
  sp : (executeList is s out).state.sp = s.sp
  cells : ∀ a, (executeList is s out).state.memory.read a = s.memory.read a

section Computing
variable [Sink σ] {body : List Instruction} {s : State} {out : σ}

theorem kept_by_computing (computes : ∀ i ∈ body, i.Computes)
    (inside : s.pc.toNat + sizeOfCode body < capacity) (taken : Taken body s out) :
    Kept body s out := by
  induction body generalizing s out with
  | nil => exact ⟨rfl, rfl, fun _ => rfl⟩
  | cons i is ih =>
    rw [List.forall_mem_cons] at computes
    rw [sizeOfCode_cons] at inside
    have done := Instruction.completed_of_works (computes.1.works taken.1) (by omega)
    have rest : Kept is (i.execute s out).state (i.execute s out).sink := by
      refine ih computes.2 ?_ taken.2
      rw [done.pc]
      omega
    have sp : (i.execute s out).state.sp = s.sp :=
      (done.registers .sp).trans computes.1.registerAfter_sp
    refine ⟨?_, ?_, fun a => ?_⟩
    · rw [executeList_cons_of_ok done.ok, rest.ok]
    · rw [executeList_cons_of_ok done.ok, rest.sp, sp]
    · rw [executeList_cons_of_ok done.ok, rest.cells, done.cells, computes.1.cellAfter]

/-- Instructions that do not fail had all their prints taken. -/
theorem taken_of_ok (goes : ∀ i ∈ body, i.goesOn = true) (ok : (executeList body s out).fault = none) :
    Taken body s out := by
  induction body generalizing s out with
  | nil => trivial
  | cons i is ih =>
    rw [List.forall_mem_cons] at goes
    obtain ⟨first, others⟩ := ok_of_ok_cons ok
    have works := Instruction.works_of_ok goes.1 first
    exact ⟨Instruction.accepted_of_works works, ih goes.2 others⟩

end Computing

/-! ## Pushes and pops around them -/

/-- The pushes that save the registers. -/
def saving (rs : List Register) : List Instruction := rs.map .push

/-- The pops that put the registers back. -/
def restoring (rs : List Register) : List Instruction := rs.reverse.map .pop

/-- The instructions of the body between the pushes and the pops. -/
def guarded (rs : List Register) (body : List Instruction) : List Instruction :=
  saving rs ++ body ++ restoring rs

/-- The first register is pushed in front of all the others and popped behind them. -/
theorem guarded_cons (r : Register) (rs : List Register) (body : List Instruction) :
    guarded (r :: rs) body = .push r :: (guarded rs body ++ [.pop r]) := by
  simp [guarded, saving, restoring]

theorem guarded_nil (body : List Instruction) : guarded [] body = body := by
  simp [guarded, saving, restoring]

theorem straight_guarded {rs : List Register} {body : List Instruction}
    (computes : ∀ i ∈ body, i.Computes) : ∀ i ∈ guarded rs body, i.Straight := by
  induction rs with
  | nil =>
    rw [guarded_nil]
    exact fun i hi => (computes i hi).straight
  | cons r rs ih =>
    rw [guarded_cons, List.forall_mem_cons, List.forall_mem_append]
    refine ⟨trivial, ih, fun i hi => ?_⟩
    rw [List.mem_singleton.mp hi]
    trivial

/-! ## One push and one pop -/

/-- What a push leaves. -/
structure Pushed (r : Register) (s t : State) : Prop where
  sp : t.sp = s.sp - 1
  registers : ∀ q, q ≠ .sp → t.get q = s.get q
  /-- R7 is stored as it is when it was lowered. -/
  top : t.top = if r = .sp then s.sp - 1 else s.get r
  cells : ∀ a, a ≠ s.sp - 1 → t.memory.read a = s.memory.read a

/-- What a pop leaves of the state `t`, if the value it takes was put by a push in the state `s`. -/
structure Popped (r : Register) (s t after : State) : Prop where
  sp : after.sp = s.sp
  register : after.get r = s.get r
  registers : ∀ q, q ≠ .sp → q ≠ r → after.get q = t.get q
  cells : ∀ a, after.memory.read a = t.memory.read a

section Single
variable [Sink σ] {r : Register} {s t : State}

theorem pushed_of_room (room : s.sp ≠ 0) (inside : s.pc.toNat + 2 < capacity) (r : Register)
    (out : σ) :
    (Instruction.push r).Completed s out ∧ Pushed r s ((Instruction.push r).execute s out).state := by
  have done : (Instruction.push r).Completed s out :=
    Instruction.completed_of_works room (by rw [size_push]; exact inside)
  have sp : ((Instruction.push r).execute s out).state.sp = s.sp - 1 := done.registers .sp
  refine ⟨done, sp, fun q other => ?_, ?_, fun a other => ?_⟩
  · rw [done.registers]
    exact if_neg (Ne.symm other)
  · have value : (Instruction.push r).registerAfter s r = if r = .sp then s.sp - 1 else s.get r := by
      simp only [Instruction.registerAfter, eq_comm]
    rw [State.top, sp, done.cells, ← value]
    exact if_pos rfl
  · rw [done.cells]
    exact if_neg (Ne.symm other)

/-- A pop takes back what a push has put, if the pointer and the cell are as the push left them. -/
theorem popped_of_pushed (room : s.sp ≠ 0) (sp : t.sp = s.sp - 1)
    (top : t.top = if r = .sp then s.sp - 1 else s.get r) (inside : t.pc.toNat + 2 < capacity)
    (out : σ) :
    (Instruction.pop r).Completed t out ∧ Popped r s t ((Instruction.pop r).execute t out).state := by
  have back : s.sp - 1 + 1 = s.sp := UInt8.sub_add_cancel ..
  -- The pointer that is raised is the one from the push, for R7 as for every other register.
  have pointer : (if r = .sp then t.top else t.sp) = s.sp - 1 := by
    by_cases own : r = .sp
    · rw [if_pos own, top, if_pos own]
    · rw [if_neg own, sp]
  have works : (Instruction.pop r).Works t out := by
    show (if r = .sp then t.top else t.sp) ≠ 255
    rw [pointer]
    intro last
    have := State.toNat_sub_one room
    have := s.sp.toNat_lt
    have : (s.sp - 1).toNat = 255 := by rw [last]; rfl
    omega
  have done : (Instruction.pop r).Completed t out :=
    Instruction.completed_of_works works (by rw [size_pop]; exact inside)
  have raised : ((Instruction.pop r).execute t out).state.sp = s.sp := by
    rw [← back, ← pointer]
    exact done.registers .sp
  refine ⟨done, raised, ?_, fun q stack other => ?_, done.cells⟩
  · by_cases own : r = .sp
    · subst own
      exact raised
    · rw [done.registers, Instruction.registerAfter, if_neg (Ne.symm own), if_pos rfl, top, if_neg own]
  · rw [done.registers, Instruction.registerAfter, if_neg (Ne.symm stack), if_neg (Ne.symm other)]

end Single

/-! ## Any number of them -/

/-- Whether `after` is the state `s` as far as the registers `rs` go, and the state `left` by what
stood between their pushes and pops in the other registers. -/
structure Restored (rs : List Register) (s left after : State) : Prop where
  saved : ∀ r ∈ rs, after.get r = s.get r
  sp : after.sp = s.sp
  others : ∀ r, r ∉ rs → r ≠ .sp → after.get r = left.get r
  /-- No cell has changed but one of the stack for each register. -/
  changed : ∀ a, after.memory.read a ≠ s.memory.read a →
    s.sp.toNat - rs.length ≤ a.toNat ∧ a.toNat < s.sp.toNat
  /-- It holds what was saved in it, and where R7 was saved its own address. -/
  cells : ∀ k r a, rs[k]? = some r → a.toNat + (k + 1) = s.sp.toNat →
    after.memory.read a = if r = .sp then a else s.get r

namespace Restored

variable {rs : List Register} {r : Register} {s t left inner after : State}

theorem nil (sp : after.sp = s.sp) (cells : ∀ a, after.memory.read a = s.memory.read a) :
    Restored [] s after after where
  saved r member := absurd member List.not_mem_nil
  sp := sp
  others _ _ _ := rfl
  changed a moved := absurd (cells a) moved
  cells k r a hr _ := by cases hr

/-- At the address of the first push and above it nothing changes before its pop. -/
theorem read_of_ge (h : Restored rs s left after) {a : UInt8} (above : s.sp.toNat ≤ a.toNat) :
    after.memory.read a = s.memory.read a := by
  apply Decidable.byContradiction
  intro moved
  exact Nat.not_lt.mpr above (h.changed a moved).2

theorem top (h : Restored rs s left after) : after.top = s.top := by
  rw [State.top, h.sp, h.read_of_ge (Nat.le_refl _)]
  rfl

/-- One more register is saved in front of all and put back behind all. -/
theorem cons (room : s.sp ≠ 0) (pushed : Pushed r s t) (rest : Restored rs t left inner)
    (popped : Popped r s inner after) : Restored (r :: rs) s left after := by
  have lowered := State.toNat_sub_one room
  have changed := rest.changed
  have cells := rest.cells
  rw [pushed.sp] at changed cells
  constructor
  · intro q member
    by_cases pointer : q = .sp
    · rw [pointer]
      exact popped.sp
    · by_cases own : q = r
      · rw [own]
        exact popped.register
      · have later : q ∈ rs := (List.mem_cons.mp member).resolve_left own
        rw [popped.registers q pointer own, rest.saved q later, pushed.registers q pointer]
  · exact popped.sp
  · intro q absent pointer
    rw [List.mem_cons, not_or] at absent
    rw [popped.registers q pointer absent.1, rest.others q absent.2 pointer]
  · intro a moved
    rw [popped.cells] at moved
    rw [List.length_cons]
    by_cases own : a = s.sp - 1
    · rw [own]
      omega
    · rw [← pushed.cells a own] at moved
      have := changed a moved
      omega
  · intro k q a hq depth
    rw [popped.cells]
    cases k with
    | zero =>
      cases hq
      have own : a = s.sp - 1 := UInt8.toNat_inj.mp (by omega)
      have top := pushed.top
      rw [State.top, pushed.sp, ← own] at top
      rw [rest.read_of_ge (by rw [pushed.sp, own])]
      exact top
    | succ k =>
      rw [cells k q a hq (by omega)]
      by_cases pointer : q = .sp
      · rw [if_pos pointer, if_pos pointer]
      · rw [if_neg pointer, if_neg pointer, pushed.registers q pointer]

end Restored

section Whole
variable [Sink σ] {rs : List Register} {body : List Instruction} {s : State} {out : σ}

/-- What it takes that the pushes, the body and the pops are executed to their end: the instruction
behind them lies inside the memory, and the sink takes what the body prints. -/
structure Unhindered (rs : List Register) (body : List Instruction) (s : State) (out : σ) :
    Prop where
  inside : s.pc.toNat + sizeOfCode (guarded rs body) < capacity
  taken : Taken body (executeList (saving rs) s out).state (executeList (saving rs) s out).sink

/-- The pop of the first register finds what its push has stored, and so completes the list. -/
theorem restored_of_pop {r : Register} {t left inner : State} (room : s.sp ≠ 0)
    (pushed : Pushed r s t) (rest : Restored rs t left inner)
    (inside : inner.pc.toNat + 2 < capacity) (out : σ) :
    ((Instruction.pop r).execute inner out).fault = none ∧
    Restored (r :: rs) s left ((Instruction.pop r).execute inner out).state := by
  have sp := rest.sp.trans pushed.sp
  have top := rest.top.trans pushed.top
  obtain ⟨last, popped⟩ := popped_of_pushed room sp top inside out
  exact ⟨last.ok, .cons room pushed rest popped⟩

/-- Where neither the push nor what stands behind it fails, the pop is left. -/
theorem executeList_guarded_cons {r : Register} {first inner : Effect σ}
    (pushed : (Instruction.push r).execute s out = first) (ok : first.fault = none)
    (rest : executeList (guarded rs body) first.state first.sink = inner)
    (rest_ok : inner.fault = none) :
    executeList (guarded (r :: rs) body) s out =
      (Instruction.pop r).execute inner.state inner.sink := by
  subst pushed rest
  rw [guarded_cons, executeList_cons_of_ok ok, executeList_append_of_ok rest_ok,
    executeList_singleton]

theorem restored_of_unhindered (room : rs.length ≤ s.sp.toNat)
    (computes : ∀ i ∈ body, i.Computes) (free : Unhindered rs body s out) :
    (executeList (guarded rs body) s out).fault = none ∧
    Restored rs s (executeList (saving rs ++ body) s out).state
      (executeList (guarded rs body) s out).state := by
  obtain ⟨inside, taken⟩ := free
  -- What is between the first push and the last pop begins with a lowered pointer and changes only
  -- cells below it, so the induction is on the registers for all states.
  induction rs generalizing s out with
  | nil =>
    rw [guarded_nil] at inside ⊢
    have kept := kept_by_computing computes inside taken
    exact ⟨kept.ok, .nil kept.sp kept.cells⟩
  | cons r rs ih =>
    rw [guarded_cons, sizeOfCode_cons, sizeOfCode_append, sizeOfCode_cons, sizeOfCode_nil,
      size_push, size_pop] at inside
    rw [List.length_cons] at room
    have stack : s.sp ≠ 0 := by
      intro bottom
      rw [bottom] at room
      exact absurd room (Nat.not_succ_le_zero _)
    have lowered := State.toNat_sub_one stack
    obtain ⟨first, pushed⟩ := pushed_of_room stack (by omega) r out
    have pc := first.pc
    rw [size_push] at pc
    have goes (is : List Instruction) := executeList_cons_of_ok first.ok is
    rw [show saving (r :: rs) = .push r :: saving rs from rfl] at taken ⊢
    rw [goes] at taken
    obtain ⟨ok, rest⟩ := ih (by rw [pushed.sp]; omega) (by omega) taken
    have moved := pc_executeList (straight_guarded computes) ok
    rw [← sizeOfCode, pc] at moved
    rw [executeList_guarded_cons rfl first.ok rfl ok, List.cons_append, goes]
    exact restored_of_pop stack pushed rest (by omega) _

/-- What has been executed to its end was not hindered. -/
theorem unhindered_of_ok (computes : ∀ i ∈ body, i.Computes)
    (ok : (executeList (guarded rs body) s out).fault = none) : Unhindered rs body s out := by
  have moved := pc_executeList (straight_guarded computes) ok
  refine ⟨?_, ?_⟩
  · rw [sizeOfCode, ← moved]
    exact UInt8.toNat_lt _
  · rw [guarded, List.append_assoc] at ok
    obtain ⟨-, others⟩ := ok_of_ok_append ok
    exact taken_of_ok (fun i hi => (computes i hi).goesOn) (ok_of_ok_append others).1

/-- What one push and its pop do. -/
structure Cancelled (r : Register) (s : State) (out : σ) : Prop where
  ok : (executeList [.push r, .pop r] s out).fault = none
  registers : ∀ q, (executeList [.push r, .pop r] s out).state.get q = s.get q
  changed : ∀ a, (executeList [.push r, .pop r] s out).state.memory.read a ≠ s.memory.read a →
    a = s.sp - 1
  /-- A push of R7 stores the lowered pointer. -/
  stored : ((Instruction.push r).execute s out).state.top = if r = .sp then s.sp - 1 else s.get r

theorem cancelled_of_inside (r : Register) (stack : s.sp ≠ 0) (inside : s.pc.toNat + 4 < capacity) :
    Cancelled r s out := by
  have lowered := State.toNat_sub_one stack
  obtain ⟨-, pushed⟩ := pushed_of_room stack (by omega) r out
  have size : sizeOfCode (guarded [r] []) = 4 := by
    show sizeOfCode [.push r, .pop r] = 4
    rw [sizeOfCode_cons, sizeOfCode_cons, sizeOfCode_nil, size_push, size_pop]
  have free : Unhindered [r] [] s out := ⟨by rw [size]; exact inside, trivial⟩
  have one : [r].length ≤ s.sp.toNat := by
    rw [List.length_singleton]
    omega
  have none : ∀ i ∈ ([] : List Instruction), i.Computes := fun i hi => absurd hi List.not_mem_nil
  obtain ⟨ok, restored⟩ := restored_of_unhindered one none free
  refine ⟨ok, fun q => ?_, fun a moved => ?_, pushed.top⟩
  · by_cases pointer : q = .sp
    · rw [pointer]
      exact restored.sp
    · by_cases own : q = r
      · exact restored.saved q (List.mem_singleton.mpr own)
      · have left : (executeList (saving [r] ++ []) s out).state.get q = s.get q := by
          show (executeList [.push r] s out).state.get q = s.get q
          rw [executeList_singleton, pushed.registers q pointer]
        rw [← left]
        exact restored.others q (fun member => own (List.mem_singleton.mp member)) pointer
  · have := restored.changed a moved
    rw [List.length_singleton] at this
    exact UInt8.toNat_inj.mp (by omega)

/-- Saved registers are put back: pushes of some registers, instructions that compute, and pops in
the opposite order either fail for one of two reasons or leave those registers and the stack
pointer as they were, and everything else as the instructions in between left it. -/
theorem registers_restored (room : rs.length ≤ s.sp.toNat) (computes : ∀ i ∈ body, i.Computes)
    (out : σ) :
    ((executeList (guarded rs body) s out).fault = none ↔ Unhindered rs body s out) ∧
    ((executeList (guarded rs body) s out).fault = none →
      Restored rs s (executeList (saving rs ++ body) s out).state
        (executeList (guarded rs body) s out).state) ∧
    (∀ r, s.sp ≠ 0 → s.pc.toNat + 4 < capacity → Cancelled r s out) ∧
    ∀ t : State, t.top ≠ 255 → ((Instruction.pop .sp).execute t out).state.sp = t.top + 1 := by
  have restored (free : Unhindered rs body s out) := restored_of_unhindered room computes free
  refine ⟨⟨unhindered_of_ok computes, fun free => (restored free).1⟩, ?_, ?_, ?_⟩
  · exact fun ok => (restored (unhindered_of_ok computes ok)).2
  · exact fun r stack inside => cancelled_of_inside r stack inside
  · intro t below
    have works : (Instruction.pop .sp).Works t out := below
    obtain ⟨after, same, work⟩ := Instruction.exists_work works
    rw [same, Instruction.sp_advance]
    exact work.registers .sp

/-- Two registers with R7 behind each, around instructions that change both and print one. -/
theorem registers_restored_pointer_twice :
    let rs : List Register := [⟨1⟩, .sp, ⟨2⟩, .sp]
    let body : List Instruction := [.ldi ⟨1⟩ 9, .ldi ⟨2⟩ 5, .alu .mul ⟨1⟩ .sp, .prn ⟨1⟩]
    let s := State.initial defaultStackTop
    rs.length ≤ s.sp.toNat ∧ (∀ i ∈ body, i.Computes) ∧
    (executeList (guarded rs body) s Printed.empty).fault = none ∧
    Restored rs s (executeList (saving rs ++ body) s Printed.empty).state
      (executeList (guarded rs body) s Printed.empty).state := by
  intro rs body s
  have room : rs.length ≤ s.sp.toNat := by decide +kernel
  have computes : ∀ i ∈ body, i.Computes := by
    simp [body, Instruction.Computes, Register.sp]
  have free : Unhindered rs body s Printed.empty := by
    refine ⟨by decide +kernel, nofun, nofun, nofun, ?_, trivial⟩
    rintro _ ⟨⟩
    rfl
  obtain ⟨completed, restored, -⟩ := registers_restored room computes Printed.empty
  have ok := completed.mpr free
  exact ⟨room, computes, ok, restored ok⟩

end Whole

end ByteMachine
