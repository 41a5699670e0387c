import Mathlib
import ByteMachine.Proofs.Machine.Execution
import ByteMachine.Proofs.Source.Building
import ByteMachine.Proofs.Source.RegisterName
import ByteMachine.Proofs.Source.Written

/-
  Names of operations. An operation is looked up in three ways: by its name, which is
  brought to upper case and compared; among the mnemonics, where case is ignored; and at
  the front of a line, where the name has to be a token before it is a mnemonic. What is
  proved:

    1. `ofName_eq_ok_iff` and `ofMnemonic?_opcode_iff`: the first two ways find an operation
       under the same names, the letters of its own in either case (`called_iff`).
    2. `instructionOf_of_names`: a line is read alike with its mnemonic in either case.
    3. `operation_names`: so an operation that is performed by name does to the registers
       what the instruction does that the line with this name in front is read as, and
       any other name is refused and leaves the registers alone.
-/

namespace ByteMachine

/-! ## Letters in either case -/

namespace Text

theorem toUpper_eq_iff {c u : Char} (capital : u.isUpper = true) :
    c.toUpper = u ↔ c = u ∨ c = u.toLower := by
  constructor
  · rintro rfl
    by_cases small : c.isLower = true
    · have fixed := Char.toLower_eq_of_not_isUpper (Char.not_isUpper_of_isLower small)
      rw [Char.toLower_toUpper_eq_toLower, fixed]
      exact .inr rfl
    · exact .inl (Char.toUpper_eq_of_not_isLower small).symm
  · have fixed := Char.toUpper_eq_of_not_isLower (Char.not_isLower_of_isUpper capital)
    rintro (rfl | rfl)
    · exact fixed
    · rw [Char.toUpper_toLower_eq_toUpper, fixed]

/-- Each letter of the text is one of the capitals, in its place and in either case. -/
theorem map_toUpper_eq_iff {cs us : List Char} (capitals : ∀ u ∈ us, u.isUpper = true) :
    cs.map Char.toUpper = us ↔ List.Forall₂ (fun c u => c = u ∨ c = u.toLower) cs us := by
  induction us generalizing cs with
  | nil => simp
  | cons u us ih =>
    obtain ⟨capital, capitals⟩ := List.forall_mem_cons.mp capitals
    cases cs with
    | nil => simp
    | cons c cs =>
      rw [List.map_cons, List.cons.injEq, List.forall₂_cons, toUpper_eq_iff capital, ih capitals]

/-- Two texts are the same in upper case just if they are the same in lower case. -/
theorem upper_eq_upper_iff {s t : String} : upper s = upper t ↔ sameLetters s t = true := by
  rw [sameLetters_iff, upper, upper, String.ofList_inj]
  -- The case that a letter is brought to does not depend on the one it had.
  constructor
  · intro same
    have lowered := congrArg (List.map Char.toLower) same
    simpa only [List.map_map, Function.comp_def, Char.toLower_toUpper_eq_toLower] using lowered
  · intro same
    have raised := congrArg (List.map Char.toUpper) same
    simpa only [List.map_map, Function.comp_def, Char.toUpper_toLower_eq_toUpper] using raised

end Text

/-! ## The name of an operation -/

namespace Operation

/-- The names of the operations: these three letters, each in either case, and nothing else. -/
inductive Called : Operation → List Char → Prop
  | add {a b c : Char} (first : a = 'A' ∨ a = 'a') (second : b = 'D' ∨ b = 'd')
      (third : c = 'D' ∨ c = 'd') : Called .add [a, b, c]
  | mul {a b c : Char} (first : a = 'M' ∨ a = 'm') (second : b = 'U' ∨ b = 'u')
      (third : c = 'L' ∨ c = 'l') : Called .mul [a, b, c]

variable {op : Operation} {name : String}

/-- An operation is called by what is its name in upper case. -/
theorem called_iff : op.Called name.toList ↔ Text.upper name = op.name := by
  have capitals : ∀ u ∈ op.name.toList, u.isUpper = true := by
    cases op <;> exact List.all_eq_true.mp rfl
  rw [← String.toList_inj, Text.upper, String.toList_ofList, Text.map_toUpper_eq_iff capitals]
  generalize name.toList = cs
  constructor
  · intro called
    cases called with
    | add first second third => exact .cons first (.cons second (.cons third .nil))
    | mul first second third => exact .cons first (.cons second (.cons third .nil))
  · intro letters
    cases op with
    | add =>
      match letters with
      | .cons first (.cons second (.cons third .nil)) => exact .add first second third
    | mul =>
      match letters with
      | .cons first (.cons second (.cons third .nil)) => exact .mul first second third

theorem ofName_eq_ok_iff : ofName name = .ok op ↔ op.Called name.toList := by
  rw [called_iff, ofName]
  constructor
  · intro h
    split at h
    · next found =>
      cases h
      have same := List.find?_some found
      exact (beq_iff_eq.mp same).symm
    · cases h
  · intro same
    rw [same]
    cases op <;> rfl

theorem ofName_of_not_called (none : ∀ op : Operation, ¬ op.Called name.toList) :
    ofName name = .error (.unsupportedOperation name) := by
  cases found : ofName name with
  | ok op => exact absurd (ofName_eq_ok_iff.mp found) (none op)
  | error cause =>
    rw [ofName] at found
    split at found
    · cases found
    · exact found.symm

theorem names_opcode_iff : Source.Names name op.opcode ↔ op.Called name.toList := by
  have capitals : Text.upper op.name = op.name := by cases op <;> rfl
  rw [called_iff, eq_comm, ← capitals, Text.upper_eq_upper_iff]
  rfl

theorem ofMnemonic?_opcode_iff :
    Opcode.ofMnemonic? name = some op.opcode ↔ op.Called name.toList :=
  Source.ofMnemonic?_eq_some_iff.trans names_opcode_iff

end Operation

/-! ## Mnemonics in either case -/

namespace Source
open Token

variable {name : String} {op : Opcode}

theorem Names.isAlpha (names : Names name op) : ∀ c ∈ name.toList, c.isAlpha = true := by
  have letters : ∀ d ∈ op.mnemonic.toList, d.isAlpha = true := by
    cases op <;> exact List.all_eq_true.mp rfl
  intro c mem
  have lowered := List.mem_map_of_mem (f := Char.toLower) mem
  rw [← Text.sameLetters_iff.mp names] at lowered
  obtain ⟨d, mem, same⟩ := List.mem_map.mp lowered
  rw [← Char.isAlpha_toLower_eq_isAlpha, ← same, Char.isAlpha_toLower_eq_isAlpha]
  exact letters d mem

theorem Names.three_le_length (names : Names name op) : 3 ≤ name.toList.length := by
  have same := congrArg List.length (Text.sameLetters_iff.mp names)
  rw [List.length_map, List.length_map] at same
  rw [← same]
  cases op <;> decide

/-- What names an opcode is a word, and no register: those have a digit or two letters. -/
theorem Names.kindOf (names : Names name op) : KindOf name.toList .word := by
  have starts : ∀ c ∈ name.toList, startsWord c = true := by
    intro c mem
    rw [startsWord, names.isAlpha c mem, Bool.true_or]
  have long := names.three_le_length
  generalize name.toList = cs at starts long
  refine .word ?_ fun register => ?_
  · cases cs with
    | nil => cases long
    | cons c cs =>
      obtain ⟨first, others⟩ := List.forall_mem_cons.mp starts
      exact .word first fun d mem => continuesWord_of_startsWord (others d mem)
  · cases register with
    | register _ some digits =>
      obtain ⟨d, mem⟩ := List.exists_mem_of_ne_nil _ some
      have other := Rule.not_isDigit_of_startsWord (starts d (List.mem_cons_of_mem _ mem))
      rw [digits d mem] at other
      cases other
    | pointer => simp at long

/-- An instruction is read back from its text, whatever the case of its mnemonic. -/
theorem instructionOf_of_names {i : Instruction} (names : Names name i.opcode) :
    instructionOf (name ++ i.operandText) = .ok i := by
  have plain : ∀ x ∈ operandsOf i, x.Plain := fun x => plain_of_mem_operandsOf
  have boundary := boundary_operandsText (operandsOf i)
  have longest := longest_of_boundary names.kindOf.spelled.choose_spec.ne_nil boundary
  have munched : Munched name.toList (operandsText (operandsOf i)) .word :=
    .longest names.kindOf longest
  have tokens : scan (name ++ i.operandText) =
      ⟨.word, name, 0⟩ :: operandsTokens (0 + Text.byteLength name.toList) (operandsOf i) := by
    rw [scan, String.toList_append, ← operandsText_operandsOf, munched.scanFrom,
      scanFrom_operandsText _ plain, String.ofList_toList]
  have proper : ∀ t ∈ scan (name ++ i.operandText), t.kind ≠ .newline ∧ t.kind ≠ .stray := by
    rw [tokens]
    exact List.forall_mem_cons.mpr ⟨by simp, fun t => kind_of_mem_operandsTokens⟩
  have line := firstLine_eq_scan fun t mem => (proper t mem).1
  have operands : Separated (operandsTokens (0 + Text.byteLength name.toList) (operandsOf i))
      (operandsOf i) :=
    parseOperands_eq_ok_iff.mp (parseOperands_tokens 1 0 _ plain)
  have form : LineForm (firstLine (name ++ i.operandText)) none (some (commandOf i)) := by
    rw [line, tokens]
    exact .plain (.command rfl names operands)
  refine instructionOf_eq_ok_iff.mpr ⟨?_, none, _, form, instruction_commandOf 1 _ i⟩
  rw [line]
  exact fun t mem => (proper t mem).2

end Source

/-! ## Operations performed by name -/

namespace Registers

/-- The operation of the given name performed on registers that are there whatever comes of it. -/
def performNamed (name : String) (ra rb : Register) : ExceptT Fault (StateM Registers) Unit := do
  let op ← MonadExcept.ofExcept ((Operation.ofName name).mapError .violation)
  modify fun rs => rs.set ra (op.apply (rs.get ra) (rs.get rb))

variable {name : String} {op : Operation} (rs : Registers) (ra rb : Register)

/-- The registers are replaced by the new ones, if there are any. -/
theorem run_performNamed :
    (performNamed name ra rb).run.run rs = match rs.combineNamed name ra rb with
      | .ok after => (.ok (), after)
      | .error fault => (.error fault, rs) := by
  rw [combineNamed, performNamed]
  cases Operation.ofName name with
  | ok op => rfl
  | error cause => rfl

theorem combineNamed_of_called (called : op.Called name.toList) :
    rs.combineNamed name ra rb = .ok (rs.combine op ra rb) := by
  rw [combineNamed, Operation.ofName_eq_ok_iff.mpr called]

theorem combineNamed_of_not_called (none : ∀ op : Operation, ¬ op.Called name.toList) :
    rs.combineNamed name ra rb = .error (.violation (.unsupportedOperation name)) := by
  rw [combineNamed, Operation.ofName_of_not_called none]

end Registers

/-- What an arithmetic instruction does to the registers, also if nothing can come behind it. -/
theorem Instruction.registers_execute_alu {σ : Type} [Sink σ] (op : Operation) (ra rb : Register)
    (s : State) (out : σ) :
    ((alu op ra rb).execute s out).state.registers = s.registers.combine op ra rb :=
  registers_advance _ _ _

/-- The name of an operation finds it just if it is the mnemonic of its opcode, that is if it is made
of the letters of ADD or of MUL, each in either case. To perform an operation by such a name on any
registers has the same effect on them as the instruction that the name and the registers are read as,
and changes one register. By any other name, which is reported as it is, no register is changed. -/
theorem operations_by_name (name : String) :
    (∀ op, Operation.ofName name = .ok op ↔ Opcode.ofMnemonic? name = some op.opcode) ∧
    (∀ op, Operation.ofName name = .ok op ↔ op.Called name.toList) ∧
    (∀ (op : Operation) (ra rb : Register), op.Called name.toList →
      Source.instructionOf (name ++ " " ++ ra.name ++ ", " ++ rb.name) = .ok (.alu op ra rb) ∧
      ∀ {σ : Type} [Sink σ] (rs : Registers) (s : State) (out : σ), ∃ after,
        ((Instruction.alu op ra rb).execute { s with registers := rs } out).state.registers =
          after ∧
        rs.combineNamed name ra rb = .ok after ∧
        (Registers.performNamed name ra rb).run.run rs = (.ok (), after) ∧
        ∀ r, r ≠ ra → after.get r = rs.get r) ∧
    ((∀ op : Operation, ¬ op.Called name.toList) → ∀ (rs : Registers) (ra rb : Register),
      rs.combineNamed name ra rb = .error (.violation (.unsupportedOperation name)) ∧
      (Registers.performNamed name ra rb).run.run rs =
        (.error (.violation (.unsupportedOperation name)), rs)) := by
  refine ⟨fun op => ?_, fun op => Operation.ofName_eq_ok_iff, ?_, ?_⟩
  · rw [Operation.ofName_eq_ok_iff, Operation.ofMnemonic?_opcode_iff]
  · intro op ra rb called
    have text : name ++ " " ++ ra.name ++ ", " ++ rb.name =
        name ++ (Instruction.alu op ra rb).operandText := by
      simp only [Instruction.operandText, String.append_assoc]
    have names : Source.Names name (Instruction.alu op ra rb).opcode :=
      Operation.names_opcode_iff.mpr called
    rw [text]
    refine ⟨Source.instructionOf_of_names names, fun rs s out => ⟨rs.combine op ra rb, ?_, ?_, ?_, ?_⟩⟩
    · exact Instruction.registers_execute_alu op ra rb _ out
    · exact rs.combineNamed_of_called ra rb called
    · rw [rs.run_performNamed, rs.combineNamed_of_called ra rb called]
    · exact fun r other => rs.get_set_ne _ other.symm
  · intro none rs ra rb
    have refused := rs.combineNamed_of_not_called ra rb none
    refine ⟨refused, ?_⟩
    rw [rs.run_performNamed, refused]

/-- Letters of both cases in a name, and a blank in front of one. -/
theorem operations_by_name_mixed_case :
    Operation.add.Called "aDd".toList ∧
    Source.instructionOf ("aDd" ++ " " ++ Register.name ⟨0⟩ ++ ", " ++ Register.name ⟨7⟩) =
      .ok (.alu .add ⟨0⟩ ⟨7⟩) ∧
    (∀ op : Operation, ¬ op.Called " add".toList) ∧
    Registers.zero.combineNamed " add" ⟨0⟩ ⟨7⟩ =
      .error (.violation (.unsupportedOperation " add")) := by
  have called : Operation.add.Called "aDd".toList := .add (.inr rfl) (.inl rfl) (.inr rfl)
  have none : ∀ op : Operation, ¬ op.Called " add".toList := by
    intro op called
    have length := congrArg String.length (Operation.called_iff.mp called)
    cases op <;> exact absurd length (by decide)
  exact ⟨called, ((operations_by_name "aDd").2.2.1 .add ⟨0⟩ ⟨7⟩ called).1, none,
    ((operations_by_name " add").2.2.2 none _ _ _).1⟩

end ByteMachine
