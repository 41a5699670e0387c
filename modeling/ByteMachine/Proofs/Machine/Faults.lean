import ByteMachine.Proofs.Machine.Journal
import ByteMachine.Proofs.Text.Lines

/-
  Where the faults of a cycle come from. An instruction that cannot be read or cannot be
  done has a fault that names its site, and a sink that fails has one of its own. A run
  has no others: that a machine asks for something outside the architecture is ruled out
  when its instructions are decoded.
-/

namespace ByteMachine

/-- Whether the fault is one that a cycle can have. -/
def Fault.OfCycle (fault : Fault) : Prop := fault.site?.isSome ∨ ∃ cause, fault = .output cause

section Cycles
variable {σ : Type} {fault : Fault}

theorem Fault.ofCycle_ofDecodeError (pc : UInt8) (e : DecodeError) :
    (Fault.ofDecodeError pc e).OfCycle := by
  cases e <;> exact .inl rfl

theorem Instruction.ofCycle_outOfRange {i : Instruction} {s : State} {address : Int}
    (h : i.outOfRange s address = some fault) : fault.OfCycle := by
  cases h
  exact .inl rfl

theorem Instruction.ofCycle_advance {i : Instruction} {s : State} {out : σ}
    (h : (i.advance s out).fault = some fault) : fault.OfCycle := by
  rw [fault_advance] at h
  split at h
  · cases h
  · exact ofCycle_outOfRange h

variable [Sink σ]

theorem Instruction.ofCycle_execute {i : Instruction} {s : State} {out : σ}
    (h : (i.execute s out).fault = some fault) : fault.OfCycle := by
  cases i with
  | hlt => cases h
  | ldi rd imm | alu op ra rb => exact ofCycle_advance h
  | prn rs =>
    unfold execute at h
    dsimp only at h
    split at h
    · exact ofCycle_advance h
    · cases h
      exact .inr ⟨_, rfl⟩
  | push rs | pop rd =>
    unfold execute at h
    dsimp only at h
    split at h
    · exact ofCycle_advance h
    · exact ofCycle_outOfRange h
  | call rs =>
    unfold execute at h
    dsimp only at h
    split at h
    · split at h
      · cases h
      · exact ofCycle_outOfRange h
    · exact ofCycle_outOfRange h
  | ret =>
    unfold execute at h
    dsimp only at h
    split at h
    · cases h
    · exact ofCycle_outOfRange h

namespace Machine
variable {m : Machine} {out : σ}

theorem ofCycle_fetch (h : m.fetch = .error fault) : fault.OfCycle := by
  obtain ⟨e, -, rfl⟩ := fetch_eq_error_iff.mp h
  exact Fault.ofCycle_ofDecodeError m.state.pc e

theorem ofCycle_step (running : m.state.status = .running)
    (stepped : (m.step out).answer = .error fault) : fault.OfCycle := by
  cases stepEnd_of_running running out with
  | unread cause fetched same =>
    rw [same] at stepped
    cases stepped
    exact ofCycle_fetch fetched
  | failed i cause fetched wrong same =>
    rw [same] at stepped
    cases stepped
    exact Instruction.ofCycle_execute wrong
  | counted i fetched ok same =>
    rw [same] at stepped
    cases stepped

/-- A machine that has not faulted yet ends its run with such a fault or with none. -/
theorem ofCycle_run (alive : m.state.status ≠ .faulted) (h : (m.run out).answer = .error fault) :
    fault.OfCycle := by
  fun_induction run m out with
  | case1 m out running below next cause stepped =>
    cases h
    exact ofCycle_step running stepped
  | case2 m out running below next status stepped ih => exact ih (alive_of_step running stepped) h
  | case3 m out running reached => cases h
  | case4 m out reason stopped => cases h
  | case5 m out stopped => exact absurd stopped alive

end Machine

/-! ## Faults in words -/

open Text (OneLine)

theorem Fault.oneLine_shown (b : UInt8) : OneLine (Fault.shown b).toList :=
  Text.oneLine_add.mpr ⟨by decide, Text.oneLine_lowerHex b.toNat⟩

theorem oneLine_intRepr : ∀ n : Int, OneLine (Int.repr n).toList
  | .ofNat n => Text.oneLine_repr n
  | .negSucc n => Text.oneLine_add.mpr ⟨by decide, Text.oneLine_repr (n + 1)⟩

/-- The fault of a cycle is told on one line. -/
theorem Fault.OfCycle.oneLine_message (h : fault.OfCycle) : OneLine fault.message.toList := by
  have atPc : ∀ {words : String} (opcode pc : UInt8), OneLine words.toList →
      OneLine (words ++ Fault.shown opcode ++ " at PC " ++ Fault.shown pc).toList := by
    intro words opcode pc before
    simp only [Text.oneLine_add, before, Fault.oneLine_shown, true_and, and_true]
    decide
  have inBrackets : ∀ {words : String} (opcode pc : UInt8), OneLine words.toList →
      OneLine (words ++ " (PC " ++ Fault.shown pc ++ ", opcode " ++ Fault.shown opcode
        ++ ")").toList := by
    intro words opcode pc before
    simp only [Text.oneLine_add, before, Fault.oneLine_shown, true_and, and_true]
    decide
  cases fault with
  | unknownOpcode site | unsupportedOperation site => exact atPc site.opcode site.pc (by decide)
  | addressOutOfRange site address =>
    exact inBrackets site.opcode site.pc (Text.oneLine_add.mpr ⟨by decide, oneLine_intRepr address⟩)
  | invalidRegister site index =>
    exact inBrackets site.opcode site.pc (Text.oneLine_add.mpr ⟨by decide, Text.oneLine_repr _⟩)
  | output cause =>
    cases cause
    decide
  | violation | loadOverflow | alreadyFaulted => rcases h with h | ⟨_, h⟩ <;> cases h

end Cycles

end ByteMachine
