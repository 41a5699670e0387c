import Mathlib.Data.List.Basic
import ByteMachine.Source.Statement
import ByteMachine.Proofs.Answer

/-
  The operands that a command takes. Each opcode has its places, one for each operand
  byte; at a place stands a register or a byte, and a label counts as a byte if its
  address is one. `instruction_eq_error_iff` says exactly when a command stands for no
  instruction and what is wrong then: first of all the number of its operands, and
  otherwise the first operand that does not fit its place. `instruction_eq_ok_iff` says
  which instruction any other command stands for, and `Command.instruction_cases` that only
  a label makes it depend on anything else.
-/

namespace ByteMachine.Source

/-- What may stand at a place of a command. -/
inductive Place where
  | register
  | byte
  deriving DecidableEq, Repr

/-- The places of the operands of an opcode. -/
def places : Opcode → List Place
  | .hlt | .ret => []
  | .prn | .push | .pop | .call => [.register]
  | .ldi => [.register, .byte]
  | .add | .mul => [.register, .register]

theorem length_places (op : Opcode) : (places op).length = op.operandCount := by
  cases op <;> rfl

/-- The operands that an instruction is written with. -/
def operandsOf : Instruction → List Operand
  | .hlt | .ret => []
  | .ldi rd imm => [.register rd, .immediate imm]
  | .prn r | .push r | .pop r | .call r => [.register r]
  | .alu _ ra rb => [.register ra, .register rb]

variable {line : Nat} {address? : String → Option Nat}

/-- Whether the operand `x` of a command fits its place, where the instruction then has `y`. -/
inductive Fits (address? : String → Option Nat) : Place → Operand → Operand → Prop
  | register (r : Register) : Fits address? .register (.register r) (.register r)
  | value (v : UInt8) : Fits address? .byte (.immediate v) (.immediate v)
  | label {n : String} {a : Nat} (found : address? n = some a) (small : a ≤ 255) :
      Fits address? .byte (.label n) (.immediate (UInt8.ofNat a))

/-- Whether all operands fit their places, and what the instruction then has there. -/
inductive AllFit (address? : String → Option Nat) :
    List Place → List Operand → List Operand → Prop
  | none : AllFit address? [] [] []
  | more {p : Place} {ps : List Place} {x y : Operand} {xs ys : List Operand}
      (fits : Fits address? p x y) (rest : AllFit address? ps xs ys) :
      AllFit address? (p :: ps) (x :: xs) (y :: ys)

/-- Why an operand does not fit its place. -/
inductive Misfit (line : Nat) (address? : String → Option Nat) : Place → Operand → SourceError → Prop
  | value (v : UInt8) : Misfit line address? .register (.immediate v)
      (.invalidRegister line (Nat.repr v.toNat))
  | name (n : String) : Misfit line address? .register (.label n) (.invalidRegister line n)
  | register (r : Register) : Misfit line address? .byte (.register r) (.invalidImmediate line r.name)
  | undefined {n : String} (absent : address? n = none) :
      Misfit line address? .byte (.label n) (.undefinedLabel line n)
  | far {n : String} {a : Nat} (found : address? n = some a) (past : 256 ≤ a) :
      Misfit line address? .byte (.label n) (.invalidImmediate line (n ++ " = " ++ Nat.repr a))

/-- The first operand that does not fit its place, and why. -/
inductive FirstMisfit (line : Nat) (address? : String → Option Nat) :
    List Place → List Operand → SourceError → Prop
  | here {p : Place} {ps : List Place} {x : Operand} {xs : List Operand} {e : SourceError}
      (misfit : Misfit line address? p x e) : FirstMisfit line address? (p :: ps) (x :: xs) e
  | later {p : Place} {ps : List Place} {x : Operand} {xs : List Operand} {e : SourceError}
      (fits : ∀ d, ¬ Misfit line address? p x d) (rest : FirstMisfit line address? ps xs e) :
      FirstMisfit line address? (p :: ps) (x :: xs) e

/-- What is wrong with the operands of a command. -/
inductive Unfit (line : Nat) (address? : String → Option Nat) (c : Command) : SourceError → Prop
  | count (wrong : c.operands.length ≠ c.opcode.operandCount) :
      Unfit line address? c (.malformed line 1 (.operandCount c.opcode c.operands.length))
  | operand {e : SourceError} (count : c.operands.length = c.opcode.operandCount)
      (first : FirstMisfit line address? (places c.opcode) c.operands e) : Unfit line address? c e

/-! ## Single operands -/

theorem toRegister_eq_error_iff {x : Operand} {e : SourceError} :
    x.toRegister line = .error e ↔ Misfit line address? .register x e := by
  cases x with
  | register r =>
    constructor
    · intro h; cases h
    · intro h; cases h
  | immediate v =>
    constructor
    · intro h; cases h; exact .value v
    · intro h; cases h; rfl
  | label n =>
    constructor
    · intro h; cases h; exact .name n
    · intro h; cases h; rfl

theorem misfit_of_toByte {x : Operand} {e : SourceError}
    (h : x.toByte line address? = .error e) : Misfit line address? .byte x e := by
  cases x with
  | immediate v => cases h
  | register r =>
    cases h
    exact .register r
  | label n =>
    simp only [Operand.toByte] at h
    split at h
    · next absent =>
      cases h
      exact .undefined absent
    · next a found =>
      split at h
      · cases h
      · next past =>
        cases h
        exact .far found (Nat.le_of_not_lt past)

theorem toByte_eq_error_iff {x : Operand} {e : SourceError} :
    x.toByte line address? = .error e ↔ Misfit line address? .byte x e := by
  refine ⟨misfit_of_toByte, ?_⟩
  intro h
  cases h with
  | register r => rfl
  | undefined absent => simp [Operand.toByte, absent]
  | far found past => simp [Operand.toByte, found, Nat.not_lt.mpr past]

theorem fits_iff_of_error_iff {α : Type} {x : Except SourceError α} {wrong : SourceError → Prop}
    (h : ∀ e, x = .error e ↔ wrong e) : (∀ d, ¬ wrong d) ↔ ∃ a, x = .ok a := by
  cases x with
  | ok a =>
    refine iff_of_true ?_ ⟨a, rfl⟩
    intro d bad
    cases (h d).mpr bad
  | error e =>
    refine iff_of_false ?_ nofun
    intro fits
    exact fits e ((h e).mp rfl)

theorem toRegister_eq_ok_iff {x : Operand} {r : Register} :
    x.toRegister line = .ok r ↔ x = .register r := by
  cases x <;> simp [Operand.toRegister]

/-- An operand is a register where it fits the place of one. -/
theorem fits_register_iff {x : Operand} {r : Register} :
    Fits address? .register x (.register r) ↔ x.toRegister line = .ok r := by
  rw [toRegister_eq_ok_iff]
  constructor
  · intro h
    cases h
    rfl
  · rintro rfl
    exact .register r

theorem fits_byte_iff {x : Operand} {v : UInt8} :
    Fits address? .byte x (.immediate v) ↔ x.toByte line address? = .ok v := by
  constructor
  · intro h
    cases h with
    | value => rfl
    | label found small => simp [Operand.toByte, found, Nat.lt_succ_of_le small]
  · intro h
    cases x with
    | immediate w =>
      cases h
      exact .value v
    | register r => cases h
    | label n =>
      simp only [Operand.toByte] at h
      split at h
      · cases h
      · next a found =>
        split at h
        · next small =>
          cases h
          exact .label found (Nat.le_of_lt_succ small)
        · cases h

/-! ## All operands -/

theorem not_firstMisfit_nil {xs : List Operand} {e : SourceError} :
    ¬ FirstMisfit line address? [] xs e := nofun

theorem firstMisfit_cons {p : Place} {ps : List Place} {x : Operand} {xs : List Operand}
    {e : SourceError} :
    FirstMisfit line address? (p :: ps) (x :: xs) e ↔
      Misfit line address? p x e ∨
        (∀ d, ¬ Misfit line address? p x d) ∧ FirstMisfit line address? ps xs e := by
  constructor
  · intro h
    cases h with
    | here misfit => exact .inl misfit
    | later fits rest => exact .inr ⟨fits, rest⟩
  · rintro (misfit | ⟨fits, rest⟩)
    · exact .here misfit
    · exact .later fits rest

section Shapes
variable {α β : Type} {x : Except SourceError α} {y : Except SourceError β} {p q : Place}
  {a b : Operand} {e : SourceError}

/-- A command of one operand is refused for that operand. -/
theorem one_eq_error_iff (hx : ∀ e, x = .error e ↔ Misfit line address? p a e) (f : α → Instruction) :
    (do return f (← x) : Except SourceError Instruction) = .error e ↔
      FirstMisfit line address? [p] [a] e := by
  rw [firstMisfit_cons, ← hx e, bind_eq_error_iff]
  constructor
  · rintro (h | ⟨_, _, h⟩)
    · exact .inl h
    · cases h
  · rintro (h | ⟨_, h⟩)
    · exact .inl h
    · exact absurd h not_firstMisfit_nil

/-- A command of two operands is refused for the second only if the first one fits. -/
theorem two_eq_error_iff (hx : ∀ e, x = .error e ↔ Misfit line address? p a e)
    (hy : ∀ e, y = .error e ↔ Misfit line address? q b e) (f : α → β → Instruction) :
    (do return f (← x) (← y) : Except SourceError Instruction) = .error e ↔
      FirstMisfit line address? [p, q] [a, b] e := by
  rw [firstMisfit_cons, ← hx e, fits_iff_of_error_iff hx, bind_eq_error_iff]
  have second : ∀ v : α, (do return f v (← y) : Except SourceError Instruction) = .error e ↔
      FirstMisfit line address? [q] [b] e := fun v => one_eq_error_iff hy (f v)
  constructor
  · rintro (h | ⟨v, ok, h⟩)
    · exact .inl h
    · exact .inr ⟨⟨v, ok⟩, (second v).mp h⟩
  · rintro (h | ⟨⟨v, ok⟩, h⟩)
    · exact .inl h
    · exact .inr ⟨v, ok, (second v).mpr h⟩

end Shapes

/-- A command with another number of operands stands for nothing. -/
theorem instruction_of_count {c : Command} (wrong : c.operands.length ≠ c.opcode.operandCount) :
    c.instruction line address? =
      .error (.malformed line 1 (.operandCount c.opcode c.operands.length)) := by
  obtain ⟨op, xs⟩ := c
  rw [← length_places] at wrong
  unfold Command.instruction
  dsimp only at wrong ⊢
  split
  case h_10 => rfl
  -- Each of the other rows has as many operands as its opcode takes.
  all_goals exact (wrong rfl).elim

theorem instruction_eq_error_iff {c : Command} {e : SourceError} :
    c.instruction line address? = .error e ↔ Unfit line address? c e := by
  by_cases count : c.operands.length = c.opcode.operandCount
  · have only : Unfit line address? c e ↔
        FirstMisfit line address? (places c.opcode) c.operands e := by
      constructor
      · intro h
        cases h with
        | count wrong => exact absurd count wrong
        | operand _ first => exact first
      · exact .operand count
    rw [only]
    obtain ⟨op, xs⟩ := c
    -- The number of operands leaves one shape for each opcode.
    rw [← length_places] at count
    have register : ∀ {x : Operand} (e : SourceError),
        x.toRegister line = .error e ↔ Misfit line address? .register x e :=
      fun _ => toRegister_eq_error_iff
    have byte : ∀ {x : Operand} (e : SourceError),
        x.toByte line address? = .error e ↔ Misfit line address? .byte x e :=
      fun _ => toByte_eq_error_iff
    cases op with
    | hlt | ret =>
      obtain rfl : xs = [] := List.length_eq_zero_iff.mp count
      refine iff_of_false ?_ not_firstMisfit_nil
      intro h
      cases h
    | prn | push | pop | call =>
      obtain ⟨a, rfl⟩ := List.length_eq_one_iff.mp count
      exact one_eq_error_iff register _
    | ldi =>
      obtain ⟨a, b, rfl⟩ := List.length_eq_two.mp count
      exact two_eq_error_iff register byte _
    | add | mul =>
      obtain ⟨a, b, rfl⟩ := List.length_eq_two.mp count
      exact two_eq_error_iff register register _
  · rw [instruction_of_count count]
    constructor
    · intro h; cases h; exact .count count
    · intro h
      cases h with
      | count _ => rfl
      | operand right _ => exact absurd right count

theorem allFit_nil_iff {xs : List Operand} : AllFit address? [] xs [] ↔ xs = [] := by
  constructor
  · intro h
    cases h
    rfl
  · rintro rfl
    exact .none

theorem allFit_cons_iff {p : Place} {ps : List Place} {y : Operand} {xs ys : List Operand} :
    AllFit address? (p :: ps) xs (y :: ys) ↔
      ∃ x rest, xs = x :: rest ∧ Fits address? p x y ∧ AllFit address? ps rest ys := by
  constructor
  · intro h
    cases h with
    | more fits rest => exact ⟨_, _, rfl, fits, rest⟩
  · rintro ⟨x, rest, rfl, fits, fit⟩
    exact .more fits fit

/-- An instruction is made of a command just if it has the opcode of the command, and the operands
that those of the command stand for. -/
theorem instruction_eq_ok_iff {c : Command} {i : Instruction} :
    c.instruction line address? = .ok i ↔
      i.opcode = c.opcode ∧ AllFit address? (places c.opcode) c.operands (operandsOf i) := by
  obtain ⟨op, xs⟩ := c
  constructor
  · intro h
    unfold Command.instruction at h
    dsimp only at h
    split at h
    case h_1 | h_2 =>
      cases h
      exact ⟨rfl, .none⟩
    case h_3 | h_4 | h_5 | h_6 =>
      obtain ⟨r, first, h⟩ := bind_eq_ok_iff.mp h
      cases h
      exact ⟨rfl, .more (fits_register_iff.mpr first) .none⟩
    case h_7 =>
      obtain ⟨r, first, h⟩ := bind_eq_ok_iff.mp h
      obtain ⟨v, second, h⟩ := bind_eq_ok_iff.mp h
      cases h
      exact ⟨rfl, .more (fits_register_iff.mpr first) (.more (fits_byte_iff.mpr second) .none)⟩
    case h_8 | h_9 =>
      obtain ⟨r, first, h⟩ := bind_eq_ok_iff.mp h
      obtain ⟨q, second, h⟩ := bind_eq_ok_iff.mp h
      cases h
      exact ⟨rfl, .more (fits_register_iff.mpr first) (.more (fits_register_iff.mpr second) .none)⟩
    case h_10 => cases h
  · rintro ⟨opcode, fit⟩
    dsimp only at opcode fit
    subst opcode
    cases i with
    | hlt | ret =>
      cases fit
      rfl
    | prn r | push r | pop r | call r =>
      obtain ⟨a, xs, rfl, first, rest⟩ := allFit_cons_iff.mp fit
      obtain rfl := allFit_nil_iff.mp rest
      simp only [Command.instruction, Instruction.opcode, fits_register_iff.mp first, ok_bind,
        pure_eq_ok]
    | ldi rd imm =>
      obtain ⟨a, xs, rfl, first, rest⟩ := allFit_cons_iff.mp fit
      obtain ⟨b, xs, rfl, second, rest⟩ := allFit_cons_iff.mp rest
      obtain rfl := allFit_nil_iff.mp rest
      simp only [Command.instruction, Instruction.opcode, fits_register_iff.mp first,
        fits_byte_iff.mp second, ok_bind, pure_eq_ok]
    | alu op ra rb =>
      cases op with
      | add | mul =>
        obtain ⟨a, xs, rfl, first, rest⟩ := allFit_cons_iff.mp fit
        obtain ⟨b, xs, rfl, second, rest⟩ := allFit_cons_iff.mp rest
        obtain rfl := allFit_nil_iff.mp rest
        simp only [Command.instruction, Instruction.opcode, Operation.opcode,
          fits_register_iff.mp first, fits_register_iff.mp second, ok_bind, pure_eq_ok]

/-- A command loads the address of a label, or has no label in it and stands for the same
instruction wherever it is. -/
theorem Command.instruction_cases {c : Command} {i : Instruction}
    (h : c.instruction line address? = .ok i) :
    (∃ rd name a, c = ⟨.ldi, [.register rd, .label name]⟩ ∧ address? name = some a ∧ a < 256 ∧
      i = .ldi rd (UInt8.ofNat a)) ∨
    (∀ name, .label name ∉ c.operands) ∧ ∀ line' address?', c.instruction line' address?' = .ok i := by
  obtain ⟨op, xs⟩ := c
  obtain ⟨opcode, fit⟩ := instruction_eq_ok_iff.mp h
  dsimp only at opcode fit
  subst opcode
  cases i with
  | hlt | ret =>
    cases fit
    exact .inr ⟨by simp, fun _ _ => rfl⟩
  | prn r | push r | pop r | call r =>
    obtain ⟨_, _, rfl, ⟨⟩, rest⟩ := allFit_cons_iff.mp fit
    obtain rfl := allFit_nil_iff.mp rest
    exact .inr ⟨by simp, fun _ _ => rfl⟩
  | ldi rd imm =>
    obtain ⟨_, _, rfl, ⟨⟩, rest⟩ := allFit_cons_iff.mp fit
    obtain ⟨_, _, rfl, second, rest⟩ := allFit_cons_iff.mp rest
    obtain rfl := allFit_nil_iff.mp rest
    cases second with
    | value => exact .inr ⟨by simp, fun _ _ => rfl⟩
    | label found small => exact .inl ⟨rd, _, _, rfl, found, Nat.lt_succ_of_le small, rfl⟩
  | alu op ra rb =>
    cases op with
    | add | mul =>
      obtain ⟨_, _, rfl, ⟨⟩, rest⟩ := allFit_cons_iff.mp fit
      obtain ⟨_, _, rfl, ⟨⟩, last⟩ := allFit_cons_iff.mp rest
      obtain rfl := allFit_nil_iff.mp last
      exact .inr ⟨by simp, fun _ _ => rfl⟩

theorem Command.instruction_load {rd : Register} {name : String} {a : Nat}
    (found : address? name = some a) (small : a < 256) :
    Command.instruction line address? ⟨.ldi, [.register rd, .label name]⟩ =
      .ok (.ldi rd (UInt8.ofNat a)) := by
  simp [Command.instruction, Operand.toRegister, Operand.toByte, found, small]

theorem FirstMisfit.line? {ps : List Place} {xs : List Operand} {e : SourceError}
    (h : FirstMisfit line address? ps xs e) : e.line? = some line := by
  induction h with
  | here misfit => cases misfit <;> rfl
  | later _ _ ih => exact ih

/-- Whatever is wrong with the operands is reported for the line of the command. -/
theorem Unfit.line? {c : Command} {e : SourceError} (h : Unfit line address? c e) :
    e.line? = some line := by
  cases h with
  | count _ => rfl
  | operand _ first => exact first.line?

end ByteMachine.Source
