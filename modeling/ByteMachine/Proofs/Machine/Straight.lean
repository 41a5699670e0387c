import ByteMachine.Proofs.Machine.Run
import ByteMachine.Proofs.Source.Written

/-
  Programs without jumps, from their text to their runs. Such a program is
  loads, prints, sums, products, pushes and pops, and a halt at its end. The
  machine fetches its instructions from the memory, where a push could overwrite
  them; as long as no push reaches the bytes of the program, the run does what
  executing the instructions in turn does:

    1. `execute_straight`: an instruction moves the program counter over its own
       bytes, and only a push writes to the memory, at the new stack pointer.
    2. `run_of_code`: so the bytes from the program counter on are always those
       of the instructions to come, by induction on these.
    3. `run_of_written`: the same, starting from a source text.
-/

namespace ByteMachine

variable {σ : Type}

/-- Whether the instruction goes on right behind itself and keeps no way back on the stack. -/
def Instruction.Straight : Instruction → Prop
  | .ldi _ _ | .prn _ | .alu _ _ _ | .push _ | .pop _ => True
  | .hlt | .call _ | .ret => False

/-- The program of the instructions: a halt stands behind them. -/
def programOf (is : List Instruction) : List Instruction := is ++ [.hlt]

/-- What an instruction without a jump leaves if it has no fault. -/
theorem execute_straight [Sink σ] {i : Instruction} {s : State} {out : σ} (straight : i.Straight)
    (ok : (i.execute s out).fault = none) :
    (i.execute s out).state.pc.toNat = s.pc.toNat + i.size ∧
      (i.execute s out).state.status = s.status ∧
      ((i.execute s out).state.memory = s.memory ∨
        ∃ rs v, i = .push rs ∧
          (i.execute s out).state.memory = s.memory.write (i.execute s out).state.sp v) := by
  cases i with
  | hlt | call rs | ret => exact straight.elim
  | ldi rd imm =>
    refine ⟨Instruction.pc_advance ok, ?_, .inl ?_⟩ <;> simp [Instruction.execute, State.set]
  | alu op ra rb =>
    refine ⟨Instruction.pc_advance ok, ?_, .inl ?_⟩ <;> simp [Instruction.execute]
  | prn rs =>
    simp only [Instruction.execute] at ok ⊢
    split at ok
    · exact ⟨Instruction.pc_advance ok, by simp, .inl (by simp)⟩
    · cases ok
  | pop rd =>
    by_cases top : (s.set rd s.top).sp = 255
    · rw [execute_pop_of_eq rd top] at ok
      cases ok
    · rw [execute_pop_of_ne rd top] at ok ⊢
      exact ⟨Instruction.pc_advance ok, by simp [State.set], .inl (by simp [State.set])⟩
  | push rs =>
    by_cases bottom : s.sp = 0
    · rw [execute_push_of_eq rs bottom] at ok
      cases ok
    · -- The pointer is lowered before the write, so the address written is the new pointer.
      rw [execute_push_of_ne rs bottom] at ok ⊢
      refine ⟨Instruction.pc_advance ok, by simp, .inr ⟨rs, (s.set .sp (s.sp - 1)).get rs, rfl, ?_⟩⟩
      rw [Instruction.memory_advance, Instruction.sp_advance, State.sp_pushed, State.memory_pushed]

/-- Code stays where it is when something is written behind it. -/
theorem prefix_write {code : List UInt8} {m : Memory} {a v : UInt8} (h : code <+: m.toList)
    (behind : code.length ≤ a.toNat) : code <+: (m.write a v).toList := by
  rw [List.prefix_iff_getElem?] at h ⊢
  intro k hk
  rw [← h k hk, Memory.getElem?_toList, Memory.getElem?_toList, Memory.get?, Memory.get?,
    Memory.write, Vector.getElem?_set, if_neg (by omega)]

/-- Whether each push that has no fault writes at the address `size` or behind it. -/
def PushesAbove [Sink σ] (size : Nat) (is : List Instruction) (s : State) (out : σ) : Prop :=
  ∀ k rs, is[k]? = some (.push rs) → (executeList (is.take (k + 1)) s out).fault = none →
    size ≤ (executeList (is.take (k + 1)) s out).state.sp.toNat

section Pushes
variable [Sink σ] {size : Nat} {i : Instruction} {is : List Instruction} {s : State} {out : σ}

theorem PushesAbove.head (h : PushesAbove size (i :: is) s out)
    (ok : (i.execute s out).fault = none) {rs : Register} (push : i = .push rs) :
    size ≤ (i.execute s out).state.sp.toNat := by
  have first := h 0 rs (by rw [push]; rfl)
  rw [List.take_succ_cons, List.take_zero, executeList_singleton] at first
  exact first ok

theorem PushesAbove.tail (h : PushesAbove size (i :: is) s out)
    (ok : (i.execute s out).fault = none) :
    PushesAbove size is (i.execute s out).state (i.execute s out).sink := by
  intro k rs hk
  have later := h (k + 1) rs hk
  rwa [List.take_succ_cons, executeList_cons_of_ok ok] at later

end Pushes

/-! ## Runs of code in memory -/

theorem pc_executeList [Sink σ] {is : List Instruction} (straight : ∀ i ∈ is, i.Straight) {s : State}
    {out : σ} (ok : (executeList is s out).fault = none) :
    (executeList is s out).state.pc.toNat =
      s.pc.toNat + (is.flatMap Instruction.encode).length := by
  induction is generalizing s out with
  | nil => rfl
  | cons i is ih =>
    rw [List.forall_mem_cons] at straight
    obtain ⟨first, others⟩ := ok_of_ok_cons ok
    rw [executeList_cons_of_ok first]
    calc (executeList is (i.execute s out).state (i.execute s out).sink).state.pc.toNat
        = (i.execute s out).state.pc.toNat + (is.flatMap Instruction.encode).length :=
          ih straight.2 others
      _ = s.pc.toNat + i.size + (is.flatMap Instruction.encode).length := by
          rw [(execute_straight straight.1 first).1]
      _ = s.pc.toNat + ((i :: is).flatMap Instruction.encode).length := by
          rw [List.flatMap_cons, List.length_append, i.length_encode, Nat.add_assoc]

/-- Code stays where it is when an instruction in front of its end has no fault. -/
theorem code_of_execute [Sink σ] {code : List UInt8} {i : Instruction} {s : State} {out : σ}
    (straight : i.Straight) (ok : (i.execute s out).fault = none) (h : code <+: s.memory.toList)
    (above : ∀ rs, i = .push rs → code.length ≤ (i.execute s out).state.sp.toNat) :
    code <+: (i.execute s out).state.memory.toList := by
  obtain ⟨-, -, same | ⟨rs, v, push, written⟩⟩ := execute_straight straight ok
  · rwa [same]
  · rw [written]
    exact prefix_write h (above rs push)

/-- The bytes from the program counter on are those of the instructions to come. -/
theorem fetch_of_code {m : Machine} {before : List UInt8} {i : Instruction} {is : List Instruction}
    (code : before ++ (i :: is).flatMap Instruction.encode <+: m.state.memory.toList)
    (pc : m.state.pc.toNat = before.length) : m.fetch = .ok i := by
  obtain ⟨rest, cells⟩ := code
  have ahead : m.state.memory.toList.drop m.state.pc.toNat =
      i.encode ++ (is.flatMap Instruction.encode ++ rest) := by
    rw [← cells, pc, List.append_assoc, List.drop_left, List.flatMap_cons, List.append_assoc]
  exact Machine.fetch_of_encode ahead

/-- A cycle counter that starts at zero has counted as many cycles as there were. -/
theorem ofNat_lt_of_lt {n : Nat} {limit : UInt64} (h : n < limit.toNat) :
    UInt64.ofNat n < limit := by
  have := limit.toNat_lt
  rw [UInt64.lt_iff_toNat_lt, UInt64.toNat_ofNat', Nat.mod_eq_of_lt (by omega)]
  exact h

section Runs
variable [Sink σ]

/-- A machine after `n` cycles whose memory has the program of the instructions behind the bytes
`before`, and whose program counter points there, does what the instructions in turn do. -/
theorem run_of_code {is : List Instruction} (straight : ∀ i ∈ is, i.Straight)
    {before : List UInt8} {f : State} {n : Nat} {m : Machine} {out : σ}
    (state : m.state = f.atCycle (UInt64.ofNat n)) (running : f.status = .running)
    (code : before ++ (programOf is).flatMap Instruction.encode <+: f.memory.toList)
    (pc : f.pc.toNat = before.length) (limit : n + is.length < m.config.maxCycles.toNat)
    (above : PushesAbove (before ++ (programOf is).flatMap Instruction.encode).length is f out) :
    ((executeList is f out).fault = none →
      (m.run out).answer = .ok .instruction ∧ (m.run out).sink = (executeList is f out).sink ∧
      (m.run out).machine.state =
        (executeList (programOf is) f out).state.atCycle (UInt64.ofNat (n + is.length + 1))) ∧
    ∀ k fault, (executeList (is.take k) f out).fault = none →
      (executeList (is.take (k + 1)) f out).fault = some fault →
      (m.run out).answer = .error fault ∧ (m.run out).sink = (executeList is f out).sink ∧
      (m.run out).machine.state =
        { (executeList is f out).state with status := .faulted, cycles := UInt64.ofNat (n + k) } := by
  -- Each cycle moves one instruction from the code to come to the bytes `before` it, and the state
  -- without a counter, `f`, goes on as in `executeList`.
  induction is generalizing before f n m out with
  | nil =>
    have running' : m.state.status = .running := by rw [state]; exact running
    have below : m.state.cycles < m.config.maxCycles := by rw [state]; exact ofNat_lt_of_lt limit
    have code' : before ++ [Instruction.hlt].flatMap Instruction.encode <+: m.state.memory.toList := by
      rw [state]
      exact code
    have fetched : m.fetch = .ok .hlt := fetch_of_code code' (by rw [state]; exact pc)
    have ok : (Instruction.hlt.execute f out).fault = none := rfl
    obtain ⟨next, ran, after, -⟩ := Machine.run_of_execute_ok state running' below fetched ok
    have halted : next.state.status = .halted .instruction := by rw [after]; rfl
    rw [ran, Machine.run_of_halted halted]
    refine ⟨fun _ => ⟨rfl, rfl, after⟩, fun k fault _ failed => ?_⟩
    cases failed
  | cons i is ih =>
    have running' : m.state.status = .running := by rw [state]; exact running
    have below : m.state.cycles < m.config.maxCycles := by
      rw [state]
      exact ofNat_lt_of_lt (by omega)
    have fetched : m.fetch = .ok i :=
      fetch_of_code (by rw [state]; exact code) (by rw [state]; exact pc)
    rw [List.forall_mem_cons] at straight
    cases first : (i.execute f out).fault with
    | some fault =>
      obtain ⟨answer, sink, after⟩ :=
        Machine.run_of_execute_fault state running' below fetched first
      rw [executeList_cons_of_fault first]
      refine ⟨fun ok => ?_, fun k fault' ok failed => ?_⟩
      · rw [first] at ok
        cases ok
      · -- The first instruction has a fault, so no other is executed before a fault.
        cases k with
        | zero =>
          rw [List.take_succ_cons, executeList_cons_of_fault first, first] at failed
          cases failed
          exact ⟨answer, sink, after⟩
        | succ k =>
          rw [List.take_succ_cons, executeList_cons_of_fault first, first] at ok
          cases ok
    | none =>
      obtain ⟨next, ran, after, config⟩ :=
        Machine.run_of_execute_ok state running' below fetched first
      obtain ⟨moved, status, -⟩ := execute_straight straight.1 first
      have bytes : before ++ (programOf (i :: is)).flatMap Instruction.encode =
          before ++ i.encode ++ (programOf is).flatMap Instruction.encode := by
        rw [programOf, List.cons_append, List.flatMap_cons, List.append_assoc]
        rfl
      rw [bytes] at code above
      -- Even a push leaves the code alone, the part before the program counter included.
      have code' := code_of_execute straight.1 first code fun rs => above.head first
      obtain ⟨halt, fault⟩ := ih straight.2 after (by rw [status]; exact running) code'
        (by rw [moved, pc, List.length_append, i.length_encode])
        (by rw [config]; simpa [Nat.add_right_comm, Nat.add_assoc] using limit) (above.tail first)
      have program : executeList (programOf (i :: is)) f out =
          executeList (programOf is) (i.execute f out).state (i.execute f out).sink :=
        executeList_cons_of_ok first (programOf is)
      rw [ran, executeList_cons_of_ok first, program]
      refine ⟨fun ok => ?_, fun k fault' ok failed => ?_⟩
      · have count : n + (i :: is).length + 1 = n + 1 + is.length + 1 := by
          rw [List.length_cons]
          omega
        rw [count]
        exact halt ok
      · cases k with
        | zero =>
          rw [List.take_succ_cons, List.take_zero, executeList_singleton, first] at failed
          cases failed
        | succ k =>
          rw [List.take_succ_cons, executeList_cons_of_ok first] at ok failed
          have count : n + (k + 1) = n + 1 + k := by omega
          rw [count]
          exact fault k fault' ok failed

end Runs

/-! ## From the source -/

theorem prefix_overlay {bytes : List UInt8} (m : Memory) (fits : bytes.length ≤ capacity) :
    bytes <+: (m.overlay bytes).toList := by
  rw [List.prefix_iff_getElem?]
  intro k hk
  rw [Memory.getElem?_toList, Memory.get?_overlay m bytes (by omega), List.getElem?_eq_getElem hk]
  rfl

namespace Machine

/-- What it means that a run of the machine does what the instructions do in turn, when the
program of the instructions has `size` bytes. -/
structure Follows [Sink σ] (m : Machine) (is : List Instruction) (out : σ) (size : Nat) : Prop where
  /-- Without a fault the machine halts behind the last instruction, or on the last address. -/
  halt : (executeList is m.state out).fault = none →
    (m.run out).answer = .ok .instruction ∧
    (m.run out).sink = (executeList is m.state out).sink ∧
    (m.run out).machine.state.cycles.toNat = is.length + 1 ∧
    (m.run out).machine.state.registers = (executeList is m.state out).state.registers ∧
    (m.run out).machine.state.memory = (executeList is m.state out).state.memory ∧
    (m.run out).machine.state.pc.toNat = min size 255
  /-- If instruction `k`, counted from 0, is the first with a fault, the machine has the same. -/
  fault : ∀ k fault, (executeList (is.take k) m.state out).fault = none →
    (executeList (is.take (k + 1)) m.state out).fault = some fault →
    (m.run out).answer = .error fault ∧
    (m.run out).sink = (executeList is m.state out).sink ∧
    (m.run out).machine.state.cycles.toNat = k ∧
    (m.run out).machine.state.status = .faulted ∧
    (m.run out).machine.state.registers = (executeList is m.state out).state.registers ∧
    (m.run out).machine.state.memory = (executeList is m.state out).state.memory

/-- What the report of the machine says then. -/
structure Reports (m : Machine) (is : List Instruction) (size : Nat) : Prop where
  halt : (executeList is m.state Printed.empty).fault = none →
    ∃ report, m.report = .ok report ∧ report.reason = .instruction ∧
      report.cycles.toNat = is.length + 1 ∧
      report.registers = (executeList is m.state Printed.empty).state.registers ∧
      report.outputs = (executeList is m.state Printed.empty).sink.values.toList ∧
      report.pc.toNat = min size 255
  fault : ∀ k fault, (executeList (is.take k) m.state Printed.empty).fault = none →
    (executeList (is.take (k + 1)) m.state Printed.empty).fault = some fault →
    m.report = .error fault

theorem Follows.reports {m : Machine} {is : List Instruction} {size : Nat}
    (h : m.Follows is Printed.empty size) : m.Reports is size := by
  constructor
  · intro ok
    obtain ⟨answer, sink, cycles, registers, -, pc⟩ := h.halt ok
    rw [report, answer]
    exact ⟨_, rfl, rfl, cycles, registers, by rw [sink], pc⟩
  · intro k fault ok failed
    obtain ⟨answer, -⟩ := h.fault k fault ok failed
    rw [report, answer]

/-- The state of a machine that an image was loaded into. -/
def loadedState (image : Image) (config : Config) : State :=
  { State.initial config.stackTop with memory := Memory.zero.overlay image.bytes }

theorem ofImage_of_fits {image : Image} (fits : image.size ≤ capacity) (config : Config) :
    ∃ m, ofImage image config = .ok m ∧ m.state = loadedState image config ∧ m.config = config := by
  have loaded : (initial config).state.memory.load image = some (Memory.zero.overlay image.bytes) :=
    if_pos fits
  rw [ofImage, load, loaded]
  exact ⟨_, rfl, rfl, rfl⟩

end Machine

/-- A halt behind instructions without a fault keeps what they left, but for the program counter. -/
theorem executeList_programOf [Sink σ] {is : List Instruction} {s : State} {out : σ}
    (ok : (executeList is s out).fault = none) :
    (executeList (programOf is) s out).state =
      { (executeList is s out).state with
        status := .halted .instruction
        pc := if (executeList is s out).state.pc = 255 then (executeList is s out).state.pc
          else (executeList is s out).state.pc + 1 } := by
  rw [programOf, executeList_append_of_ok ok, executeList_singleton]
  rfl

/-- A halt on the last address stays there. -/
theorem toNat_behind_halt {pc : UInt8} {size : Nat} (h : pc.toNat + 1 = size) :
    (if pc = 255 then pc else pc + 1).toNat = min size 255 := by
  have := pc.toNat_lt
  split
  · next last =>
    have : pc.toNat = 255 := by rw [last]; rfl
    omega
  · next inside =>
    rw [State.toNat_add_one inside]
    have : pc.toNat ≠ 255 := fun e => inside (UInt8.toNat_inj.mp e)
    omega

/-- A machine with the program in its memory follows the instructions if no push reaches them. -/
theorem follows_of_loaded [Sink σ] {is : List Instruction} (straight : ∀ i ∈ is, i.Straight)
    {image : Image} (bytes : image.bytes = (programOf is).flatMap Instruction.encode)
    (fits : image.size ≤ capacity) {config : Config}
    (limit : is.length + 1 ≤ config.maxCycles.toNat) {m : Machine}
    (state : m.state = Machine.loadedState image config) (own : m.config = config) {out : σ}
    (above : PushesAbove image.size is m.state out) : m.Follows is out image.size := by
  have small := config.maxCycles.toNat_lt
  have code : [] ++ (programOf is).flatMap Instruction.encode <+: m.state.memory.toList := by
    rw [List.nil_append, ← bytes, state]
    exact prefix_overlay Memory.zero fits
  have count : m.state = m.state.atCycle (UInt64.ofNat 0) := by
    rw [state]
    rfl
  rw [Image.size, bytes] at above
  obtain ⟨halt, fault⟩ := run_of_code straight count (by rw [state]; rfl) code (by rw [state]; rfl)
    (by rw [own]; omega) above
  constructor
  · intro ok
    obtain ⟨answer, sink, after⟩ := halt ok
    have size : (executeList is m.state out).state.pc.toNat + 1 = image.size := by
      rw [pc_executeList straight ok, state, Image.size, bytes, programOf, List.flatMap_append,
        List.length_append]
      show 0 + _ + 1 = _ + 1
      omega
    rw [executeList_programOf ok, Nat.zero_add] at after
    rw [after]
    refine ⟨answer, sink, ?_, rfl, rfl, toNat_behind_halt size⟩
    show (UInt64.ofNat (is.length + 1)).toNat = is.length + 1
    rw [UInt64.toNat_ofNat', Nat.mod_eq_of_lt (by omega)]
  · intro k fault' ok failed
    obtain ⟨answer, sink, after⟩ := fault k fault' ok failed
    -- Past the last instruction both conditions are about the whole list and contradict each other.
    have early : k < is.length := by
      by_contra late
      rw [List.take_of_length_le (by omega)] at ok failed
      rw [ok] at failed
      cases failed
    rw [after]
    refine ⟨answer, sink, ?_, rfl, rfl, rfl⟩
    show (UInt64.ofNat (0 + k)).toNat = k
    rw [Nat.zero_add, UInt64.toNat_ofNat', Nat.mod_eq_of_lt (by omega)]

/-- A source that says instructions without jumps and a halt is assembled, and a machine with the
image follows the instructions, from the same state, into any sink. -/
theorem run_of_written {source : String} {is : List Instruction} (straight : ∀ i ∈ is, i.Straight)
    (written : Text.lines source.toList = (programOf is).map fun i => i.text.toList)
    (fits : ((programOf is).flatMap Instruction.encode).length ≤ capacity) :
    ∃ image : Image, Source.assemble source = .ok image ∧
      image.bytes = (programOf is).flatMap Instruction.encode ∧
      ∀ config : Config, is.length + 1 ≤ config.maxCycles.toNat →
        ∃ m, Machine.ofImage image config = .ok m ∧ m.state = Machine.loadedState image config ∧
          (∀ {σ : Type} [Sink σ] (out : σ), PushesAbove image.size is m.state out →
            m.Follows is out image.size) ∧
          (PushesAbove image.size is m.state Printed.empty → m.Reports is image.size) := by
  refine ⟨⟨_⟩, Source.assemble_written written fits, rfl, fun config limit => ?_⟩
  obtain ⟨m, loaded, state, own⟩ := Machine.ofImage_of_fits
    (show (⟨(programOf is).flatMap Instruction.encode⟩ : Image).size ≤ capacity from fits) config
  refine ⟨m, loaded, state, fun out above => ?_, fun above => Machine.Follows.reports ?_⟩
  · exact follows_of_loaded straight rfl fits limit state own above
  · exact follows_of_loaded straight rfl fits limit state own above

/-- A load, a push onto the stack above the program, and a print. -/
theorem run_of_written_load_push_print :
    (∀ i ∈ [Instruction.ldi ⟨0⟩ 8, .push ⟨0⟩, .prn ⟨0⟩], i.Straight) ∧
    Source.sourceOf (programOf [.ldi ⟨0⟩ 8, .push ⟨0⟩, .prn ⟨0⟩]) =
      "LDI R0, 8\nPUSH R0\nPRN R0\nHLT\n" ∧
    ∃ image m report,
      Source.assemble "LDI R0, 8\nPUSH R0\nPRN R0\nHLT\n" = .ok image ∧
      Machine.ofImage image {} = .ok m ∧ m.report = .ok report ∧
      report.outputs = [8] ∧ report.cycles.toNat = 4 ∧ report.pc.toNat = 8 := by
  have straight : ∀ i ∈ [Instruction.ldi ⟨0⟩ 8, .push ⟨0⟩, .prn ⟨0⟩], i.Straight := by
    simp [Instruction.Straight]
  have text : Source.sourceOf (programOf [.ldi ⟨0⟩ 8, .push ⟨0⟩, .prn ⟨0⟩]) =
      "LDI R0, 8\nPUSH R0\nPRN R0\nHLT\n" := by cbv
  have written := Source.lines_sourceOf (programOf [.ldi ⟨0⟩ 8, .push ⟨0⟩, .prn ⟨0⟩])
  rw [text] at written
  obtain ⟨⟨bytes⟩, assembled, rfl, ran⟩ := run_of_written straight written (by decide)
  obtain ⟨m, loaded, state, -, reports⟩ := ran {} (by decide)
  rw [state] at reports
  have above : PushesAbove 8 [.ldi ⟨0⟩ 8, .push ⟨0⟩, .prn ⟨0⟩]
      (Machine.loadedState ⟨(programOf [.ldi ⟨0⟩ 8, .push ⟨0⟩, .prn ⟨0⟩]).flatMap Instruction.encode⟩ {})
      Printed.empty := by
    intro k rs hk ok
    rcases k with _ | _ | _ | k
    · cases hk
    · decide +kernel
    · cases hk
    · cases hk
  have halt := (reports above).halt
  rw [state] at halt
  obtain ⟨report, reported, -, cycles, -, outputs, pc⟩ := halt (by decide +kernel)
  refine ⟨straight, text, _, m, report, assembled, loaded, reported, ?_, cycles, pc⟩
  rw [outputs]
  decide +kernel

end ByteMachine
