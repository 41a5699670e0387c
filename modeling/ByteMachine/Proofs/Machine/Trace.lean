import ByteMachine.Proofs.Machine.Footprint
import ByteMachine.Proofs.Machine.History

/-
  The rows that a machine keeps. A row is kept before the instruction is fetched, and
  the cycle is counted after it was executed, so a cycle that faults has a row and is
  not counted. Whatever calls have led to the machine:

    1. `kept_rows`: the rows are those of the states in which the cycles of its history
       began.
    2. `kept_counts`: cycle `k` began after `k` counted ones, and only the last cycle can
       have faulted.
    3. `kept_views`: the row behind that of an executed instruction, or the state behind
       the last one, is what the instruction makes of it.
    4. `decode_row`: the bytes of a row are those of the instruction that was executed
       then. What stands in a row for cells past the end of the memory is never read.
    5. `rows_are_faithful` puts this together.
-/

namespace ByteMachine

open Instruction (decode)

/-- The cycles of a history. -/
def attempts (log : List Happening) : List Attempt :=
  log.filterMap fun
    | .attempt a => some a
    | .limit => none

theorem attempts_attempt (log : List Happening) (a : Attempt) :
    attempts (log ++ [.attempt a]) = attempts log ++ [a] := by
  rw [attempts, List.filterMap_append]
  rfl

theorem attempts_limit (log : List Happening) : attempts (log ++ [.limit]) = attempts log := by
  rw [attempts, List.filterMap_append]
  exact List.append_nil _

/-- The number of cycles that were not cut short by a fault. -/
def succeeded (as : List Attempt) : Nat := as.countP (·.executed?.isSome)

/-- What instructions that do not read the memory can see of a state. -/
structure View where
  registers : Registers
  pc : UInt8

def State.view (s : State) : View := ⟨s.registers, s.pc⟩

def TraceRow.view (row : TraceRow) : View := ⟨row.registers, row.pc⟩

/-- What a cycle of the instruction leaves alone, and where it goes on. -/
structure Follows (i : Instruction) (before after : View) : Prop where
  registers : ∀ r, i.destination? ≠ some r → (i.usesStack = true → r ≠ .sp) →
    after.registers.get r = before.registers.get r
  pc : i.goesOn = true → after.pc.toNat = before.pc.toNat + i.size

/-- The view at the beginning of a cycle, or of the state `s` behind the last one. -/
def viewAt (as : List Attempt) (s : State) (k : Nat) : View :=
  (as[k]?.map (·.state.view)).getD s.view

theorem viewAt_length (as : List Attempt) (s : State) : viewAt as s as.length = s.view := by
  rw [viewAt, List.getElem?_eq_none (Nat.le_refl _)]
  rfl

theorem viewAt_concat (as : List Attempt) (a : Attempt) (s : State) {k : Nat}
    (le : k ≤ as.length) : viewAt (as ++ [a]) s k = viewAt as a.state k := by
  -- The state behind the last cycle is the one in which the next begins.
  by_cases last : k = as.length
  · subst last
    rw [viewAt_length, viewAt, List.getElem?_concat_length]
    rfl
  · rw [viewAt, viewAt, List.getElem?_append_left (by omega),
      List.getElem?_eq_getElem (by omega : k < as.length)]
    rfl

/-- A property of every cycle is that of the earlier ones and of the last one. -/
theorem forall_concat {as : List Attempt} {a : Attempt} {holds : Nat → Attempt → Prop}
    (earlier : ∀ k b, as[k]? = some b → holds k b) (last : holds as.length a) :
    ∀ k b, (as ++ [a])[k]? = some b → holds k b := by
  intro k b at_k
  by_cases inside : k < as.length
  · rw [List.getElem?_append_left inside] at at_k
    exact earlier k b at_k
  · have bound := (List.getElem?_eq_some_iff.mp at_k).1
    rw [List.length_append, List.length_singleton] at bound
    have same : k = as.length := by omega
    rw [same, List.getElem?_concat_length] at at_k
    cases at_k
    rw [same]
    exact last

namespace Machine

/-! ## What every move keeps -/

theorem kept_rows {config : Config} (keeps : config.keepRows = true) :
    Kept fun log m =>
      m.config = config ∧ m.rows.toList = (attempts log).map fun a => .ofState a.state where
  load image h := by
    rw [loaded_eq]
    exact h
  attempt := by
    intro log m σ _ out running h
    have recorded : m.record.config = config ∧
        m.record.rows.toList = (attempts log ++ [m.attempt out]).map fun a => .ofState a.state := by
      refine ⟨h.1, ?_⟩
      have kept : m.record.rows = m.rows.push (.ofState m.state) := by
        show (if m.config.keepRows then m.rows.push (.ofState m.state) else m.rows) = _
        rw [h.1, if_pos keeps]
      rw [kept, Array.toList_push, h.2, List.map_append]
      rfl
    rw [attempts_attempt]
    cases stepEnd_of_running running out with
    | unread fault fetched same | failed i fault fetched wrong same | counted i fetched ok same =>
      rw [same]
      exact recorded
  limit := by
    intro log m running h
    rw [attempts_limit]
    exact h
  note e h := h

/-- The number of a cycle is the number of counted ones before it, and only the last can have
faulted. -/
structure Counted (as : List Attempt) (m : Machine) : Prop where
  cycles : m.state.cycles = UInt64.ofNat (succeeded as)
  length : as.length = succeeded as + if m.state.status = .faulted then 1 else 0
  began : ∀ k a, as[k]? = some a →
    a.state.cycles = UInt64.ofNat k ∧ (a.executed?.isSome = true ↔ k < succeeded as)

theorem succeeded_concat (as : List Attempt) (a : Attempt) :
    succeeded (as ++ [a]) = succeeded as + if a.executed?.isSome then 1 else 0 := by
  simp [succeeded, List.countP_append, List.countP_cons]

/-- A cycle that faults is the last one and is not counted. -/
theorem Counted.faulted {as : List Attempt} {a : Attempt} {m last : Machine} (h : Counted as m)
    (running : m.state.status = .running) (began : a.state = m.state) (fault : a.executed? = none)
    (cycles : last.state.cycles = m.state.cycles) (status : last.state.status = .faulted) :
    Counted (as ++ [a]) last := by
  have length := h.length
  have same : succeeded (as ++ [a]) = succeeded as := by simp [succeeded_concat, fault]
  rw [running, if_neg nofun, Nat.add_zero] at length
  refine ⟨?_, ?_, forall_concat ?_ ?_⟩
  · rw [cycles, h.cycles, same]
  · rw [List.length_append, List.length_singleton, length, same, if_pos status]
  · intro k b at_k
    rw [same]
    exact h.began k b at_k
  · rw [began, h.cycles, fault, same, length]
    exact ⟨rfl, by simp⟩

/-- One that does not is counted. -/
theorem Counted.executed {as : List Attempt} {a : Attempt} {i : Instruction} {m last : Machine}
    (h : Counted as m) (running : m.state.status = .running) (began : a.state = m.state)
    (done : a.executed? = some i) (cycles : last.state.cycles = m.state.cycles + 1)
    (status : last.state.status ≠ .faulted) : Counted (as ++ [a]) last := by
  have length := h.length
  have more : succeeded (as ++ [a]) = succeeded as + 1 := by simp [succeeded_concat, done]
  rw [running, if_neg nofun, Nat.add_zero] at length
  refine ⟨?_, ?_, forall_concat ?_ ?_⟩
  · rw [cycles, h.cycles, more, UInt64.ofNat_add]
    rfl
  · rw [List.length_append, List.length_singleton, length, more, if_neg status]
  · intro k b at_k
    obtain ⟨number, whole⟩ := h.began k b at_k
    have inside := (List.getElem?_eq_some_iff.mp at_k).1
    refine ⟨number, ?_⟩
    rw [whole, more]
    omega
  · rw [began, h.cycles, done, more, length]
    exact ⟨rfl, by simp⟩

/-- Instructions that are executed do not fault the machine. -/
theorem status_execute_ne_faulted {σ : Type} [Sink σ] {m : Machine}
    (running : m.state.status = .running) (i : Instruction) (out : σ) :
    (i.execute m.state out).state.status ≠ .faulted := by
  by_cases halt : i = .hlt
  · rw [halt]
    exact nofun
  · rw [status_execute halt, running]
    exact nofun

theorem kept_counts : Kept fun log m => Counted (attempts log) m where
  load image h := by
    rw [loaded_eq]
    exact ⟨h.cycles, h.length, h.began⟩
  attempt := by
    intro log m σ _ out running h
    rw [attempts_attempt]
    cases stepEnd_of_running running out with
    | unread fault fetched same =>
      rw [same]
      exact h.faulted running rfl (executed?_of_unread fetched) rfl rfl
    | failed i fault fetched wrong same =>
      rw [same]
      exact h.faulted running rfl (executed?_of_failed fetched wrong)
        (i.cycles_execute m.state out) rfl
    | counted i fetched ok same =>
      rw [same]
      exact h.executed running rfl (executed?_of_counted fetched ok) rfl
        (status_execute_ne_faulted running i out)
  limit := by
    intro log m running h
    have length := h.length
    rw [running, if_neg nofun] at length
    rw [attempts_limit]
    exact ⟨h.cycles, by rw [length]; rfl, h.began⟩
  note e h := ⟨h.cycles, h.length, h.began⟩

/-- What was executed was fetched, and leads to the next view. -/
def Linked (as : List Attempt) (s : State) : Prop :=
  ∀ k a, as[k]? = some a → ∀ i, a.executed? = some i →
    decode (a.state.memory.toList.drop a.state.pc.toNat) = .ok i ∧
      Follows i a.state.view (viewAt as s (k + 1))

theorem Linked.concat {as : List Attempt} {a : Attempt} {s t : State} (h : Linked as s)
    (began : a.state = s) (last : ∀ i, a.executed? = some i →
      decode (s.memory.toList.drop s.pc.toNat) = .ok i ∧ Follows i s.view t.view) :
    Linked (as ++ [a]) t := by
  apply forall_concat
  · intro k b at_k i done
    have inside := (List.getElem?_eq_some_iff.mp at_k).1
    rw [viewAt_concat as a t inside, began]
    exact h k b at_k i done
  · intro i done
    have behind := viewAt_length (as ++ [a]) t
    rw [List.length_append, List.length_singleton] at behind
    rw [behind, began]
    exact last i done

theorem kept_views : Kept fun log m => Linked (attempts log) m.state where
  load image h := by
    rw [loaded_eq]
    exact h
  attempt := by
    intro log m σ _ out running h
    rw [attempts_attempt]
    cases stepEnd_of_running running out with
    | unread fault fetched same =>
      rw [same]
      apply h.concat rfl
      intro i done
      rw [executed?_of_unread fetched] at done
      cases done
    | failed j fault fetched wrong same =>
      rw [same]
      apply h.concat rfl
      intro i done
      rw [executed?_of_failed fetched wrong] at done
      cases done
    | counted j fetched ok same =>
      rw [same]
      apply h.concat rfl
      intro i done
      rw [executed?_of_counted fetched ok] at done
      cases done
      refine ⟨fetch_eq_ok_iff.mp fetched, ?_, fun goes => Instruction.pc_execute goes ok⟩
      intro r other apart
      exact Instruction.get_execute other apart
  limit := by
    intro log m running h
    rw [attempts_limit]
    exact h
  note e h := h

/-! ## The bytes of a row -/

/-- A row holds the whole instruction that is decoded from its state. -/
theorem encode_prefix_row {s : State} {i : Instruction}
    (decoded : decode (s.memory.toList.drop s.pc.toNat) = .ok i) :
    i.encode <+: (TraceRow.ofState s).bytes := by
  have ahead := Instruction.encode_prefix_of_decode decoded
  rw [List.prefix_iff_getElem?] at ahead ⊢
  intro k inside
  have small : k < 3 := by
    have := i.length_encode
    have := i.size_le_three
    omega
  have cell := ahead k inside
  rw [List.getElem?_drop, Memory.getElem?_toList] at cell
  have index : (List.range' s.pc.toNat 3)[k]? = some (s.pc.toNat + k) := by
    rw [List.getElem?_range' small, Nat.one_mul]
  rw [TraceRow.ofState, List.getElem?_map, index, Option.map_some, cell, Option.getD_some]

/-- So it decodes to that instruction, whose bytes are all in the memory. -/
theorem decode_row {s : State} {i : Instruction}
    (decoded : decode (s.memory.toList.drop s.pc.toNat) = .ok i) :
    decode (TraceRow.ofState s).bytes = .ok i ∧ s.pc.toNat + i.size ≤ capacity ∧
      s.memory.slice s.pc.toNat i.size = i.encode := by
  obtain ⟨rest, bytes⟩ := encode_prefix_row decoded
  have ahead := Instruction.encode_prefix_of_decode decoded
  have fits := ahead.length_le
  rw [i.length_encode, List.length_drop, Memory.length_toList] at fits
  refine ⟨?_, ?_, ?_⟩
  · rw [← bytes]
    exact i.decode_encode_append rest
  · have := i.size_pos
    omega
  · rw [Memory.slice_eq_take_drop, ← i.length_encode]
    exact (List.prefix_iff_eq_take.mp ahead).symm

/-! ## All rows -/

/-- The view behind row `k`: that of the next row, or of the state when it is the last row. -/
def viewBehind (m : Machine) (k : Nat) : View :=
  match m.rows[k + 1]? with
  | some next => next.view
  | none => m.state.view

/-- What the rows of a machine tell of its cycles. -/
structure Logged (as : List Attempt) (m : Machine) : Prop where
  /-- A row for every counted cycle, and one for a cycle that faulted. -/
  size : m.rows.size = m.state.cycles.toNat + if m.state.status = .faulted then 1 else 0
  all : m.rows.size = as.length
  /-- Row `k` has the number of its cycle and what the state was when the cycle began. -/
  row : ∀ (k : Nat) (row : TraceRow) (a : Attempt), m.rows[k]? = some row → as[k]? = some a →
    row.cycle.toNat = k ∧ row.pc = a.state.pc ∧ row.registers = a.state.registers
  succeeded : ∀ (k : Nat) (a : Attempt), as[k]? = some a →
    (a.executed?.isSome = true ↔ k < m.state.cycles.toNat)
  /-- The row of a cycle that succeeded decodes to the instruction that was executed, all of it in
  the memory, and what is behind the row is what the instruction left. -/
  executed : ∀ (k : Nat) (row : TraceRow) (a : Attempt) (i : Instruction),
    m.rows[k]? = some row → as[k]? = some a → a.executed? = some i →
    decode row.bytes = .ok i ∧ row.pc.toNat + i.size ≤ capacity ∧
    a.state.memory.slice row.pc.toNat i.size = i.encode ∧ Follows i row.view (m.viewBehind k)

/-- Whatever was asked of a machine that keeps its rows, and in whatever order, up to the number of
cycles that its counter can count. -/
theorem rows_are_faithful {config : Config} {log : List Happening} {m : Machine}
    (calls : (initial config).Calls log m) (keeps : config.keepRows = true)
    (few : succeeded (attempts log) < UInt64.size) : Logged (attempts log) m := by
  obtain ⟨-, rows⟩ := (kept_rows keeps).calls calls ⟨rfl, rfl⟩
  have counted := kept_counts.calls calls ⟨rfl, rfl, nofun⟩
  have linked : Linked (attempts log) m.state := kept_views.calls calls nofun
  have cycles : m.state.cycles.toNat = succeeded (attempts log) := by
    rw [counted.cycles, UInt64.toNat_ofNat_of_lt' few]
  have all : m.rows.size = (attempts log).length := by
    rw [← Array.length_toList, rows, List.length_map]
  have row_eq : ∀ k : Nat, m.rows[k]? = (attempts log)[k]?.map fun a : Attempt => TraceRow.ofState a.state := by
    intro k
    rw [← Array.getElem?_toList, rows, List.getElem?_map]
  have behind : ∀ k, m.viewBehind k = viewAt (attempts log) m.state (k + 1) := by
    intro k
    rw [viewBehind, viewAt, row_eq]
    cases (attempts log)[k + 1]? <;> rfl
  have same : ∀ {k : Nat} {row : TraceRow} {a : Attempt}, m.rows[k]? = some row →
      (attempts log)[k]? = some a → row = .ofState a.state := by
    intro k row a at_k began
    rw [row_eq, began] at at_k
    exact (Option.some.inj at_k).symm
  refine ⟨?_, all, ?_, ?_, ?_⟩
  · rw [all, counted.length, cycles]
  · intro k row a at_k began
    have inside := (List.getElem?_eq_some_iff.mp began).1
    have length := counted.length
    -- A cycle that faulted is one more than were counted, and its number is their count.
    have small : k < UInt64.size := by
      split at length
      · omega
      · omega
    have number : (TraceRow.ofState a.state).cycle = UInt64.ofNat k := (counted.began k a began).1
    rw [same at_k began, number, UInt64.toNat_ofNat_of_lt' small]
    exact ⟨rfl, rfl, rfl⟩
  · intro k a began
    rw [cycles]
    exact (counted.began k a began).2
  · intro k row a i at_k began done
    obtain ⟨decoded, follows⟩ := linked k a began i done
    obtain ⟨whole, inside, bytes⟩ := decode_row decoded
    rw [same at_k began, behind]
    exact ⟨whole, inside, bytes, follows⟩

/-- A machine that keeps its rows, with a program that puts R0 on the stack. -/
def pushOnly : Machine := (initial { keepRows := true }).loaded ⟨[0x45, 0x00]⟩

/-- The cycle behind the push faults on a byte that is no opcode. -/
theorem rows_are_faithful_push_and_stray :
    let pushed := pushOnly.step Printed.empty
    let m := (pushed.machine.step pushed.sink).machine
    let log := pushOnly.inSteps 1 Printed.empty ++ pushed.machine.inSteps 1 pushed.sink
    (initial { keepRows := true }).Calls log m ∧ succeeded (attempts log) < UInt64.size ∧
    m.state.status = .faulted ∧ m.rows.size = 2 ∧
    ∃ row, m.rows[0]? = some row ∧ decode row.bytes = .ok (.push ⟨0⟩) ∧
      Follows (.push ⟨0⟩) row.view (m.viewBehind 0) := by
  intro pushed m log
  have first : (initial { keepRows := true }).Calls (pushOnly.inSteps 1 Printed.empty)
      pushed.machine := .step Printed.empty (.load ⟨[0x45, 0x00]⟩ .none)
  have calls : (initial { keepRows := true }).Calls log m := first.step pushed.sink
  have few : succeeded (attempts log) < UInt64.size := by decide +kernel
  have faithful := rows_are_faithful calls rfl few
  have status : m.state.status = .faulted := by decide +kernel
  have count : m.state.cycles.toNat = 1 := by decide +kernel
  have size : m.rows.size = 2 := by rw [faithful.size, status, count]; rfl
  have running : pushOnly.state.status = .running := by decide +kernel
  have began : (attempts log)[0]? = some (pushOnly.attempt Printed.empty) := by
    simp [log, attempts, inSteps, running]
  have done : (pushOnly.attempt Printed.empty).executed? = some (.push ⟨0⟩) := by decide +kernel
  have some_row : 0 < m.rows.size := by rw [size]; exact Nat.zero_lt_two
  obtain ⟨row, at_0⟩ : ∃ row, m.rows[0]? = some row := ⟨_, Array.getElem?_eq_getElem some_row⟩
  obtain ⟨decoded, -, -, follows⟩ := faithful.executed 0 row _ (.push ⟨0⟩) at_0 began done
  exact ⟨calls, few, status, size, row, at_0, decoded, follows⟩

end Machine

end ByteMachine
