import ByteMachine.Proofs.Source.Grammar

/-
  Instructions made of commands. To make one, the operands are counted and then taken one
  after the other, each by its position, and the byte of an arithmetic opcode is looked up
  for its operation. Either of the last two could fail by itself, if the opcodes counted
  other operands than their instructions have or the look-up knew other bytes. What is
  proved:

    1. `Command.build_eq`: neither does, so making an instruction step by step comes to
       what the command stands for.
    2. `instruction_of_command`: a command stands for an instruction just if it has as many
       operands as its opcode counts and all fit their places. Otherwise it is refused for
       the number of them or for the first one that does not fit, on its own line.
    3. `instructionOf_eq_ok_iff` and `instructionOf_eq_error_iff`: so with a text that is to
       be one instruction.
-/

namespace ByteMachine.Source

/-! ## Operands by position -/

/-- What keeps an instruction from being made. -/
inductive Obstacle where
  /-- There is no operand at the position, counted from 0. -/
  | missing (position : Nat)
  | refused (e : SourceError)

namespace Command

def operandAt (c : Command) (k : Nat) : Except Obstacle Operand :=
  match c.operands[k]? with
  | some x => .ok x
  | none => .error (.missing k)

def registerAt (line : Nat) (c : Command) (k : Nat) : Except Obstacle Register := do
  let x ← c.operandAt k
  (x.toRegister line).mapError .refused

def byteAt (line : Nat) (address? : String → Option Nat) (c : Command) (k : Nat) :
    Except Obstacle UInt8 := do
  let x ← c.operandAt k
  (x.toByte line address?).mapError .refused

/-- The operation that the byte of the opcode is assigned to. -/
def operation (c : Command) : Except Obstacle Operation :=
  (Operation.ofByte c.opcode.byte).mapError fun cause => .refused (.violation cause)

/-- The instruction made step by step. -/
def build (line : Nat) (address? : String → Option Nat) (c : Command) :
    Except Obstacle Instruction :=
  if c.operands.length = c.opcode.operandCount then
    match c.opcode with
    | .hlt => .ok .hlt
    | .ret => .ok .ret
    | .prn => do return .prn (← c.registerAt line 0)
    | .push => do return .push (← c.registerAt line 0)
    | .pop => do return .pop (← c.registerAt line 0)
    | .call => do return .call (← c.registerAt line 0)
    | .ldi => do return .ldi (← c.registerAt line 0) (← c.byteAt line address? 1)
    | .add | .mul => do
      return .alu (← c.operation) (← c.registerAt line 0) (← c.registerAt line 1)
  else .error (.refused (.malformed line 1 (.operandCount c.opcode c.operands.length)))

end Command

variable {line : Nat} {address? : String → Option Nat}

section Steps
variable {α β : Type}

/-- One step that is refused. -/
theorem one_mapError (x : Except SourceError α) (f : α → Instruction) :
    (do return f (← x.mapError .refused) : Except Obstacle Instruction) =
      (do return f (← x) : Except SourceError Instruction).mapError .refused := by
  cases x <;> rfl

/-- Two steps, of which the first that is refused decides. -/
theorem two_mapError (x : Except SourceError α) (y : Except SourceError β)
    (f : α → β → Instruction) :
    (do return f (← x.mapError .refused) (← y.mapError .refused) : Except Obstacle Instruction) =
      (do return f (← x) (← y) : Except SourceError Instruction).mapError .refused := by
  cases x with
  | error e => rfl
  | ok a => exact one_mapError y (f a)

end Steps

/-- The opcodes count the operands that are taken, and the look-up knows the arithmetic ones. -/
theorem Command.build_eq (c : Command) :
    c.build line address? = (c.instruction line address?).mapError .refused := by
  unfold Command.build
  split
  · next count =>
    obtain ⟨op, xs⟩ := c
    rw [← length_places] at count
    cases op with
    | hlt | ret =>
      obtain rfl : xs = [] := List.length_eq_zero_iff.mp count
      rfl
    | prn | push | pop | call =>
      obtain ⟨a, rfl⟩ := List.length_eq_one_iff.mp count
      exact one_mapError (a.toRegister line) _
    | ldi =>
      obtain ⟨a, b, rfl⟩ := List.length_eq_two.mp count
      exact two_mapError (a.toRegister line) (b.toByte line address?) _
    | add | mul =>
      obtain ⟨a, b, rfl⟩ := List.length_eq_two.mp count
      exact two_mapError (a.toRegister line) (b.toRegister line) _
  · next wrong =>
    rw [instruction_of_count wrong]
    rfl

/-! ## Operands that fit -/

section Operands
variable {p : Place} {ps : List Place} {x : Operand} {xs ys : List Operand} {c : Command}

variable (line) in
/-- An operand fits its place if nothing is wrong with it there. -/
theorem exists_fits_iff : (∃ y, Fits address? p x y) ↔ ∀ e, ¬ Misfit line address? p x e := by
  cases p with
  | register =>
    rw [fits_iff_of_error_iff fun e => toRegister_eq_error_iff]
    constructor
    · rintro ⟨y, ⟨r⟩⟩
      exact ⟨r, rfl⟩
    · rintro ⟨r, made⟩
      exact ⟨.register r, fits_register_iff.mpr made⟩
  | byte =>
    rw [fits_iff_of_error_iff fun e => toByte_eq_error_iff]
    constructor
    · rintro ⟨y, fits⟩
      cases fits with
      | value v => exact ⟨v, rfl⟩
      | label found small => exact ⟨_, fits_byte_iff.mp (.label found small)⟩
    · rintro ⟨v, made⟩
      exact ⟨.immediate v, fits_byte_iff.mpr made⟩

variable (line) in
/-- The first of the operands that do not fit is at fault, unless all fit. -/
theorem forall_not_firstMisfit_iff (count : ps.length = xs.length) :
    (∀ e, ¬ FirstMisfit line address? ps xs e) ↔
      List.Forall₂ (fun p x => ∃ y, Fits address? p x y) ps xs := by
  induction ps generalizing xs with
  | nil =>
    obtain rfl : xs = [] := List.length_eq_zero_iff.mp count.symm
    exact iff_of_true (fun e => not_firstMisfit_nil) .nil
  | cons p ps ih =>
    obtain ⟨x, xs, rfl⟩ := List.exists_cons_of_length_eq_add_one count.symm
    rw [List.forall₂_cons, ← ih (Nat.succ.inj count), exists_fits_iff line]
    simp only [firstMisfit_cons, not_or, not_and]
    constructor
    · intro none
      exact ⟨fun e => (none e).1, fun e => (none e).2 fun d => (none d).1⟩
    · rintro ⟨fits, none⟩ e
      exact ⟨fits e, fun _ => none e⟩

/-- A command stands for an instruction just if all its operands are there and fit. -/
theorem exists_instruction_iff : (∃ i, c.instruction line address? = .ok i) ↔
    c.operands.length = c.opcode.operandCount ∧
      List.Forall₂ (fun p x => ∃ y, Fits address? p x y) (places c.opcode) c.operands := by
  rw [← fits_iff_of_error_iff fun e => instruction_eq_error_iff]
  constructor
  · intro fine
    have count : c.operands.length = c.opcode.operandCount := by
      by_contra wrong
      exact fine _ (.count wrong)
    refine ⟨count, (forall_not_firstMisfit_iff line ?_).mp fun e first => ?_⟩
    · rw [length_places, count]
    · exact fine e (.operand count first)
  · rintro ⟨count, each⟩ e unfit
    cases unfit with
    | count wrong => exact wrong count
    | operand _ first =>
      exact (forall_not_firstMisfit_iff line (by rw [length_places, count])).mpr each e first

/-- Making an instruction of a command never reads past its operands and finds the operation of every
arithmetic opcode. There is an instruction just if the operands are as many as the opcode counts and
each fits its place; it has the opcode of the command, and in the same order what the operands stand
for. Otherwise the command is refused on its line, for the number of operands if that is wrong, or
else for the first operand that does not fit. -/
theorem instruction_of_command (line : Nat) (address? : String → Option Nat) (c : Command) :
    c.build line address? = (c.instruction line address?).mapError .refused ∧
    (∀ k, c.build line address? ≠ .error (.missing k)) ∧
    (∀ cause, c.instruction line address? ≠ .error (.violation cause)) ∧
    ((∃ i, c.instruction line address? = .ok i) ↔
      c.operands.length = c.opcode.operandCount ∧
        List.Forall₂ (fun p x => ∃ y, Fits address? p x y) (places c.opcode) c.operands) ∧
    (∀ i, c.instruction line address? = .ok i ↔
      i.opcode = c.opcode ∧ AllFit address? (places c.opcode) c.operands (operandsOf i)) ∧
    (∀ e, c.instruction line address? = .error e ↔
      e.line? = some line ∧ Unfit line address? c e) ∧
    ∀ p x, (∃ y, Fits address? p x y) ↔ ∀ e, ¬ Misfit line address? p x e := by
  have refused : ∀ e, c.instruction line address? = .error e ↔
      e.line? = some line ∧ Unfit line address? c e := by
    intro e
    rw [instruction_eq_error_iff]
    exact ⟨fun unfit => ⟨unfit.line?, unfit⟩, fun h => h.2⟩
  refine ⟨c.build_eq, ?_, ?_, exists_instruction_iff, fun i => instruction_eq_ok_iff, refused,
    fun p x => exists_fits_iff line⟩
  · intro k missing
    rw [c.build_eq] at missing
    cases made : c.instruction line address? with
    | ok i =>
      rw [made] at missing
      cases missing
    | error e =>
      rw [made] at missing
      cases missing
  · intro cause h
    obtain ⟨none, -⟩ := (refused _).mp h
    cases none

/-- An address that is no byte, and a label in the place of a register that is reported first. -/
example : Command.instruction 3 (fun _ => some 256) ⟨.ldi, [.register ⟨1⟩, .label "end"]⟩ =
      .error (.invalidImmediate 3 "end = 256") ∧
    Command.instruction 3 (fun _ => none) ⟨.ldi, [.label "a", .label "b"]⟩ =
      .error (.invalidRegister 3 "a") := by
  constructor <;> cbv

end Operands

/-! ## Texts of one instruction -/

section Texts
variable {text : String}

/-- Where no token is a newline, all of them are on the first line. -/
theorem firstLine_eq_scan (h : ∀ t ∈ Token.scan text, t.kind ≠ .newline) :
    firstLine text = Token.scan text :=
  List.takeWhile_eq_self_iff.mpr fun t mem => by simpa using h t mem

/-- A text is an instruction just if its first line has a command that stands for it. -/
theorem instructionOf_eq_ok_iff {i : Instruction} : instructionOf text = .ok i ↔
    (∀ t ∈ firstLine text, t.kind ≠ .stray) ∧ ∃ label c,
      LineForm (firstLine text) label (some c) ∧ c.instruction 1 (fun _ => none) = .ok i := by
  constructor
  · intro h
    obtain ⟨s, parsed, made⟩ := bind_eq_ok_iff.mp h
    obtain ⟨clean, line, form⟩ := parse_eq_ok_iff.mp parsed
    split at made
    · next c command =>
      rw [command] at form
      rw [line] at made
      exact ⟨clean, s.label, c, form, made⟩
    · cases made
  · rintro ⟨clean, label, c, form, made⟩
    have parsed : Statement.parse 1 text = .ok ⟨1, label, some c⟩ :=
      parse_eq_ok_iff.mpr ⟨clean, rfl, form⟩
    rw [instructionOf, parsed]
    exact made

/-- Any other text is refused as a line, for having no command, or for the operands of its command. -/
theorem instructionOf_eq_error_iff {e : SourceError} : instructionOf text = .error e ↔
    Rejected 1 text e ∨ (∀ t ∈ firstLine text, t.kind ≠ .stray) ∧ ∃ label command,
      LineForm (firstLine text) label command ∧
        ((command = none ∧ e = .malformed 1 1 .emptyInstruction) ∨
          ∃ c, command = some c ∧ Unfit 1 (fun _ => none) c e) := by
  rw [instructionOf, bind_eq_error_iff, parse_eq_error_iff]
  refine or_congr_right ?_
  constructor
  · rintro ⟨s, parsed, wrong⟩
    obtain ⟨clean, line, form⟩ := parse_eq_ok_iff.mp parsed
    refine ⟨clean, s.label, s.command, form, ?_⟩
    split at wrong
    · next c command =>
      rw [line] at wrong
      exact .inr ⟨c, command, instruction_eq_error_iff.mp wrong⟩
    · next none =>
      cases wrong
      exact .inl ⟨none, rfl⟩
  · rintro ⟨clean, label, command, form, wrong⟩
    refine ⟨⟨1, label, command⟩, parse_eq_ok_iff.mpr ⟨clean, rfl, form⟩, ?_⟩
    obtain ⟨rfl, rfl⟩ | ⟨c, rfl, unfit⟩ := wrong
    · rfl
    · exact instruction_eq_error_iff.mpr unfit

end Texts

end ByteMachine.Source
