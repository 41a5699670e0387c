import ByteMachine.Proofs.Source.Layout
import ByteMachine.Proofs.Source.Lexeme
import ByteMachine.Proofs.Source.Operands
import ByteMachine.Proofs.Text.Lines

/-
  Instructions written as source text and read back. A command whose operands
  are registers and bytes is the same command after it was written and parsed,
  and an instruction is the same instruction. So a source with one instruction
  on each line is assembled to the bytes of its instructions.
-/

namespace ByteMachine.Source

open Text (byteLength)

/-! ## Operands -/

namespace Operand

/-- Whether the operand is a register or a byte, which stand for themselves. -/
def Plain : Operand → Prop
  | .register _ | .immediate _ => True
  | .label _ => False

/-- The kind of the token that the operand is written as. -/
def kind : Operand → Kind
  | .register r => .register r.index
  | .immediate value => .decimal value.toNat
  | .label _ => .word

/-- The token that the operand is written as. -/
def token (x : Operand) (start : Nat) : Token := ⟨x.kind, x.text, start⟩

theorem toList_name (r : Register) : r.name.toList = 'R' :: Nat.toDigits 10 r.index := by
  rw [Register.name, String.toList_append, Nat.toList_repr]
  rfl

/-- An operand is written as one token. -/
theorem scanFrom_text (start : Nat) {x : Operand} (plain : x.Plain) {rest : List Char}
    (hrest : Boundary rest) :
    Token.scanFrom start (x.text.toList ++ rest) =
      x.token start :: Token.scanFrom (start + byteLength x.text.toList) rest := by
  cases x with
  | register r =>
    have small : (r.index : Nat) ≤ greatestNumber := by
      have := r.index.isLt
      rw [greatestNumber]; omega
    rw [text, toList_name, Token.scanFrom_register start Nat.toDigits_ne_nil
      (fun c => Text.isDigit_of_mem_decimal) hrest, Text.numeral_toDigits, Kind.bounded,
      if_pos small, ← toList_name, String.ofList_toList]
    rfl
  | immediate value =>
    have small : value.toNat ≤ greatestNumber := by
      have := value.toNat_lt
      rw [greatestNumber]; omega
    rw [text, Nat.toList_repr, Token.scanFrom_decimal start Nat.toDigits_ne_nil
      (fun c => Text.isDigit_of_mem_decimal) hrest, Text.numeral_toDigits, Kind.bounded,
      if_pos small, ← Nat.toList_repr, String.ofList_toList]
    rfl
  | label name => exact plain.elim

/-- The token of an operand is read as the operand. -/
theorem parseOperand_token (line start : Nat) {x : Operand} (plain : x.Plain) :
    Statement.parseOperand line (x.token start) = .ok x := by
  cases x with
  | register r => simp [Statement.parseOperand, token, kind]
  | immediate value => simp [Statement.parseOperand, token, kind, value.toNat_lt]
  | label name => exact plain.elim

/-- No operand is written as something that ends a line, a label, or all reading. -/
theorem kind_ne (x : Operand) : x.kind ≠ .newline ∧ x.kind ≠ .colon ∧ x.kind ≠ .stray := by
  cases x <;> simp [kind]

end Operand

/-! ## Lists of operands -/

/-- The operands after the first one as text. -/
def furtherText : List Operand → List Char
  | [] => []
  | x :: xs => ',' :: ' ' :: (x.text.toList ++ furtherText xs)

/-- The tokens of that text, which starts at the byte `start`. -/
def furtherTokens (start : Nat) : List Operand → List Token
  | [] => []
  | x :: xs =>
    ⟨.comma, ",", start⟩ :: x.token (start + 2)
      :: furtherTokens (start + 2 + byteLength x.text.toList) xs

/-- All operands as text, behind a mnemonic. -/
def operandsText : List Operand → List Char
  | [] => []
  | x :: xs => ' ' :: (x.text.toList ++ furtherText xs)

/-- The tokens of that text. -/
def operandsTokens (start : Nat) : List Operand → List Token
  | [] => []
  | x :: xs => x.token (start + 1) :: furtherTokens (start + 1 + byteLength x.text.toList) xs

theorem boundary_furtherText (xs : List Operand) : Boundary (furtherText xs) := by
  cases xs <;> simp [furtherText, continuesWord]

theorem boundary_operandsText (xs : List Operand) : Boundary (operandsText xs) := by
  cases xs <;> simp [operandsText, continuesWord]

theorem scanFrom_furtherText (start : Nat) {xs : List Operand} (plain : ∀ x ∈ xs, x.Plain) :
    Token.scanFrom start (furtherText xs) = furtherTokens start xs := by
  induction xs generalizing start with
  | nil => exact Token.scanFrom_nil start
  | cons x xs ih =>
    rw [furtherText, Token.scanFrom_comma, Token.scanFrom_gap (start + 1) rfl,
      Operand.scanFrom_text _ (plain x (by simp)) (boundary_furtherText xs),
      ih _ fun y hy => plain y (by simp [hy])]
    rfl

theorem scanFrom_operandsText (start : Nat) {xs : List Operand} (plain : ∀ x ∈ xs, x.Plain) :
    Token.scanFrom start (operandsText xs) = operandsTokens start xs := by
  cases xs with
  | nil => exact Token.scanFrom_nil start
  | cons x xs =>
    rw [operandsText, Token.scanFrom_gap start rfl,
      Operand.scanFrom_text _ (plain x (by simp)) (boundary_furtherText xs),
      scanFrom_furtherText _ fun y hy => plain y (by simp [hy])]
    rfl

theorem parseFurther_tokens (line lastColumn start : Nat) {xs : List Operand}
    (plain : ∀ x ∈ xs, x.Plain) :
    Statement.parseFurther line lastColumn (furtherTokens start xs) = .ok xs := by
  induction xs generalizing start with
  | nil => rfl
  | cons x xs ih =>
    rw [furtherTokens, Statement.parseFurther, if_pos rfl,
      Operand.parseOperand_token line _ (plain x (by simp)), ok_bind,
      ih _ fun y hy => plain y (by simp [hy])]
    rfl

theorem parseOperands_tokens (line lastColumn start : Nat) {xs : List Operand}
    (plain : ∀ x ∈ xs, x.Plain) :
    Statement.parseOperands line lastColumn (operandsTokens start xs) = .ok xs := by
  cases xs with
  | nil => rfl
  | cons x xs =>
    rw [operandsTokens, Statement.parseOperands,
      Operand.parseOperand_token line _ (plain x (by simp)), ok_bind,
      parseFurther_tokens line lastColumn _ fun y hy => plain y (by simp [hy])]
    rfl

/-- The tokens of operands are tokens of a line. -/
theorem kind_of_mem_operandsTokens {start : Nat} {xs : List Operand} {t : Token}
    (ht : t ∈ operandsTokens start xs) : t.kind ≠ .newline ∧ t.kind ≠ .stray := by
  have ofOperand : ∀ (x : Operand) (start : Nat),
      (x.token start).kind ≠ .newline ∧ (x.token start).kind ≠ .stray :=
    fun x _ => ⟨x.kind_ne.1, x.kind_ne.2.2⟩
  have further : ∀ (xs : List Operand) (start : Nat), t ∈ furtherTokens start xs →
      t.kind ≠ .newline ∧ t.kind ≠ .stray := by
    intro xs
    induction xs with
    | nil => intro _ ht; simp [furtherTokens] at ht
    | cons x xs ih =>
      intro start ht
      rw [furtherTokens, List.mem_cons, List.mem_cons] at ht
      rcases ht with rfl | rfl | ht
      · exact ⟨by simp, by simp⟩
      · exact ofOperand x _
      · exact ih _ ht
  cases xs with
  | nil => simp [operandsTokens] at ht
  | cons x xs =>
    rw [operandsTokens, List.mem_cons] at ht
    rcases ht with rfl | ht
    · exact ofOperand x _
    · exact further xs _ ht

/-! ## Commands -/

/-- A command as source text. -/
def Command.text (c : Command) : List Char := c.opcode.mnemonic.toList ++ operandsText c.operands

/-- The tokens of that text. -/
def Command.tokens (c : Command) : List Token :=
  ⟨.word, c.opcode.mnemonic, 0⟩
    :: operandsTokens (byteLength c.opcode.mnemonic.toList) c.operands

theorem ofMnemonic?_mnemonic (op : Opcode) : Opcode.ofMnemonic? op.mnemonic = some op := by
  cases op <;> decide

/-- A mnemonic is a word, and none is the name of a register. -/
theorem scanFrom_mnemonic (start : Nat) (op : Opcode) {rest : List Char} (hrest : Boundary rest) :
    Token.scanFrom start (op.mnemonic.toList ++ rest) =
      ⟨.word, op.mnemonic, start⟩
        :: Token.scanFrom (start + byteLength op.mnemonic.toList) rest := by
  have spelled : ∃ c w, op.mnemonic.toList = c :: w ∧ startsWord c = true ∧
      w.all continuesWord = true ∧ Rule.register.reach (c :: w ++ rest) = 0 := by
    cases op <;> exact ⟨_, _, rfl, rfl, rfl, rfl⟩
  obtain ⟨c, w, spelling, starts, continues, free⟩ := spelled
  have word := Token.scanFrom_word start starts (List.all_eq_true.mp continues) hrest
    (by rw [free]; simp)
  rwa [← spelling, String.ofList_toList] at word

namespace Statement

theorem scan_text {c : Command} (plain : ∀ x ∈ c.operands, x.Plain) :
    Token.scan (String.ofList c.text) = c.tokens := by
  rw [Token.scan, String.toList_ofList, Command.text,
    scanFrom_mnemonic 0 c.opcode (boundary_operandsText c.operands),
    scanFrom_operandsText _ plain, Nat.zero_add]
  rfl

/-- All tokens of a command are on its line. -/
theorem lineTokens_text (line : Nat) {c : Command} (plain : ∀ x ∈ c.operands, x.Plain) :
    lineTokens line (String.ofList c.text) = .ok c.tokens := by
  have proper : ∀ t ∈ c.tokens, t.kind ≠ .newline ∧ t.kind ≠ .stray := by
    intro t ht
    rcases List.mem_cons.mp ht with rfl | ht
    · exact ⟨by simp, by simp⟩
    · exact kind_of_mem_operandsTokens ht
  -- So nothing is cut off at the end of a line, and nothing is refused.
  have whole : c.tokens.takeWhile (·.kind != .newline) = c.tokens :=
    List.takeWhile_eq_self_iff.mpr fun t ht => by simpa using (proper t ht).1
  have clean : c.tokens.find? (·.kind == .stray) = none :=
    List.find?_eq_none.mpr fun t ht => by simpa using (proper t ht).2
  simp only [lineTokens, scan_text plain, whole, clean]

/-- A command has no label in front. -/
theorem splitLabel_tokens (c : Command) : splitLabel c.tokens = (none, c.tokens) := by
  unfold Command.tokens
  cases c.operands with
  | nil => rfl
  | cons x xs =>
    refine if_neg fun colon => ?_
    exact x.kind_ne.2.1 colon.2

/-- A command is read back from its text. -/
theorem parse_text (line : Nat) {c : Command} (plain : ∀ x ∈ c.operands, x.Plain) :
    parse line (String.ofList c.text) = .ok ⟨line, none, some c⟩ := by
  rw [parse, lineTokens_text line plain, ok_bind, splitLabel_tokens]
  dsimp only
  rw [Command.tokens, parseCommand, if_pos rfl]
  simp only [ofMnemonic?_mnemonic, parseOperands_tokens line _ _ plain, ok_bind, pure_eq_ok]

end Statement

/-! ## Instructions -/

/-- The command that an instruction is written as. -/
def commandOf (i : Instruction) : Command := ⟨i.opcode, operandsOf i⟩

theorem plain_of_mem_operandsOf {i : Instruction} {x : Operand} (hx : x ∈ operandsOf i) : x.Plain := by
  cases i <;> simp [operandsOf] at hx <;> rcases hx with rfl | rfl <;> trivial

theorem operandsText_operandsOf (i : Instruction) :
    operandsText (operandsOf i) = i.operandText.toList := by
  cases i with
  | hlt | ret => rfl
  | prn r | push r | pop r | call r | ldi r imm | alu op r rb =>
    simp [operandsOf, operandsText, furtherText, Instruction.operandText, Operand.text]

theorem text_commandOf (i : Instruction) : (commandOf i).text = i.text.toList := by
  rw [Command.text, Instruction.text, String.toList_append, ← operandsText_operandsOf]
  rfl

/-- The command stands for the instruction, whatever labels there are. -/
theorem instruction_commandOf (line : Nat) (address? : String → Option Nat) (i : Instruction) :
    (commandOf i).instruction line address? = .ok i := by
  cases i with
  | alu op ra rb => cases op <;> rfl
  | _ => rfl

/-- The text of an instruction is a line that says the instruction and nothing else. -/
theorem parse_instruction (line : Nat) (i : Instruction) :
    Statement.parse line i.text = .ok ⟨line, none, some (commandOf i)⟩ := by
  have parsed := Statement.parse_text line (c := commandOf i) fun x => plain_of_mem_operandsOf
  rwa [text_commandOf, String.ofList_toList] at parsed

theorem oneLine_name (r : Register) : Text.OneLine r.name.toList := by
  simp [Register.name]

/-- No instruction is written on more than one line. -/
theorem oneLine_text (i : Instruction) : Text.OneLine i.text.toList := by
  have mnemonic : ∀ op : Opcode, Text.OneLine op.mnemonic.toList := by
    intro op
    cases op <;> decide +kernel
  rw [Instruction.text, String.toList_append, Text.oneLine_append]
  refine ⟨mnemonic i.opcode, ?_⟩
  cases i <;> simp [Instruction.operandText, oneLine_name]

/-! ## Sources of instructions -/

/-- The statements of lines with one instruction each, the first line being number `line`. -/
def statementsOf (line : Nat) : List Instruction → List Statement
  | [] => []
  | i :: is => ⟨line, none, some (commandOf i)⟩ :: statementsOf (line + 1) is

theorem reads_written (line : Nat) (is : List Instruction) :
    Reads line (is.map fun i => i.text.toList) (statementsOf line is) := by
  induction is generalizing line with
  | nil => exact .nil line
  | cons i is ih =>
    refine .cons ?_ (ih (line + 1))
    rw [String.ofList_toList]
    exact parse_instruction line i

theorem label_statementsOf (line : Nat) (is : List Instruction) :
    (statementsOf line is).filterMap Statement.label = [] := by
  induction is generalizing line with
  | nil => rfl
  | cons i is ih => exact ih (line + 1)

theorem distinct_statementsOf (line : Nat) (is : List Instruction) :
    (Layout.empty.extended (statementsOf line is)).Distinct := by
  have none := fst_labelTable 0 (statementsOf line is)
  rw [label_statementsOf] at none
  simp [Layout.Distinct, Layout.extended, Layout.empty, List.map_eq_nil_iff.mp none]

theorem instructions_statementsOf (line : Nat) (is : List Instruction) :
    (Layout.empty.extended (statementsOf line is)).instructions = .ok is := by
  rw [Layout.instructions, Layout.placed_extended_empty]
  generalize (Layout.empty.extended (statementsOf line is)).address? = address?
  induction is generalizing line with
  | nil => rfl
  | cons i is ih =>
    refine mapM_cons_eq_ok_iff.mpr ⟨i, is, ?_, ih (line + 1), rfl⟩
    exact instruction_commandOf line address? i

/-- A source with one instruction on each line is the assembly of the instructions. -/
theorem assemble_written {source : String} {is : List Instruction}
    (written : Text.lines source.toList = is.map fun i => i.text.toList)
    (fits : (is.flatMap Instruction.encode).length ≤ capacity) :
    assemble source = .ok ⟨is.flatMap Instruction.encode⟩ := by
  have laid : Layout.ofSource source = .ok (Layout.empty.extended (statementsOf 1 is)) := by
    rw [Layout.ofSource, written]
    exact Layout.addLines_of_reads (reads_written 1 is) (distinct_statementsOf 1 is)
  have made : ∃ count, Assembly.ofSource source = .ok ⟨is, count⟩ := by
    refine ⟨(Layout.empty.extended (statementsOf 1 is)).labels.length, ?_⟩
    rw [Assembly.ofSource, laid, ok_bind, instructions_statementsOf]
    rfl
  obtain ⟨count, made⟩ := made
  rw [assemble, made, ok_bind, Assembly.image, Assembly.code, Image.checked, if_pos fits]

/-- A line that says nothing after lines with one instruction each is what is wrong with a source. -/
theorem assemble_malformed {source : String} {is : List Instruction} {line : List Char}
    {rest : List (List Char)} {e : SourceError}
    (written : Text.lines source.toList = (is.map fun i => i.text.toList) ++ line :: rest)
    (wrong : Statement.parse (1 + is.length) (String.ofList line) = .error e) :
    assemble source = .error e := by
  have laid : Layout.ofSource source = .error e := by
    rw [Layout.ofSource, written, Layout.addLines_append,
      Layout.addLines_of_reads (reads_written 1 is) (distinct_statementsOf 1 is), ok_bind,
      Layout.addLines, Layout.addLine, List.length_map, wrong]
    rfl
  rw [assemble, Assembly.ofSource, laid]
  rfl

/-- The instructions as a source, a line for each. -/
def sourceOf (is : List Instruction) : String :=
  String.ofList (is.flatMap fun i => i.text.toList ++ ['\n'])

theorem lines_sourceOf (is : List Instruction) :
    Text.lines (sourceOf is).toList = is.map fun i => i.text.toList := by
  rw [sourceOf, String.toList_ofList]
  exact Text.lines_flatMap_of fun i _ => oneLine_text i

end ByteMachine.Source
