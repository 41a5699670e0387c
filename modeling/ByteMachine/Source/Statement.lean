import ByteMachine.Instruction
import ByteMachine.Source.Error
import ByteMachine.Source.Token
import ByteMachine.Text.Blank

/-
  Statements. A line may define a label, a word with a colon after it, and may
  hold a command: a mnemonic and its operands, a comma between two. A register
  operand names one of the eight registers, a number is a byte, and any other
  word stands for the address of a label.

  Text that is no token makes the line malformed wherever it stands; otherwise
  the first token out of place decides what is wrong.
-/

namespace ByteMachine.Source

/-- An operand as it is written. -/
inductive Operand where
  | register (r : Register)
  | immediate (value : UInt8)
  | label (name : String)
  deriving DecidableEq, Repr

/-- An opcode with the operands written after it. -/
structure Command where
  opcode : Opcode
  operands : List Operand
  deriving DecidableEq, Repr

/-- What a line says. -/
structure Statement where
  /-- The number of the line. -/
  line : Nat
  /-- The label it defines. -/
  label : Option String
  /-- The instruction it asks for. -/
  command : Option Command
  deriving DecidableEq, Repr

namespace Statement

/-- The column of a token: its first byte, counted from 1. -/
def column (t : Token) : Nat := t.start + 1

/-- The tokens of the first line of the source, if nothing on it is stray. -/
def lineTokens (line : Nat) (source : String) : Except SourceError (List Token) :=
  let tokens := (Token.scan source).takeWhile (·.kind != .newline)
  match tokens.find? (·.kind == .stray) with
  | some t => .error (.malformed line (column t) (.unexpectedInput t.text))
  | none => .ok tokens

/-- The label in front of a line, and the tokens after it. -/
def splitLabel : List Token → Option String × List Token
  | t :: c :: rest =>
    if t.kind = .word ∧ c.kind = .colon then (some t.text, rest) else (none, t :: c :: rest)
  | tokens => (none, tokens)

/-- The refusal of a token that does not belong where it stands. -/
def unexpected (line : Nat) (t : Token) : SourceError :=
  .malformed line (column t) (.unexpectedToken t.text)

/-- The operand that a token is. -/
def parseOperand (line : Nat) (t : Token) : Except SourceError Operand :=
  match t.kind with
  | .register n =>
    match Register.ofNat? n with
    | some r => .ok (.register r)
    | none => .error (.invalidRegister line t.text)
  | .decimal v | .hex v | .binary v =>
    if v < 256 then .ok (.immediate (UInt8.ofNat v)) else .error (.invalidImmediate line t.text)
  | .word => .ok (.label t.text)
  | _ => .error (unexpected line t)

/-- The operands after the first one, each with a comma before it. A comma at
the end is reported at the column `lastColumn`. -/
def parseFurther (line lastColumn : Nat) : List Token → Except SourceError (List Operand)
  | [] => .ok []
  | [c] =>
    if c.kind = .comma then .error (.malformed line lastColumn .trailingComma)
    else .error (unexpected line c)
  | c :: t :: rest =>
    if c.kind = .comma then do
      let x ← parseOperand line t
      return x :: (← parseFurther line lastColumn rest)
    else .error (unexpected line c)

/-- All operands of a command. -/
def parseOperands (line lastColumn : Nat) : List Token → Except SourceError (List Operand)
  | [] => .ok []
  | t :: rest => do
    let x ← parseOperand line t
    return x :: (← parseFurther line lastColumn rest)

/-- The command that the tokens after the label are, if there are any. -/
def parseCommand (line lastColumn : Nat) : List Token → Except SourceError (Option Command)
  | [] => .ok none
  | t :: rest =>
    if t.kind = .word then
      match Opcode.ofMnemonic? t.text with
      | none => .error (.unknownInstruction line t.text)
      | some opcode => do return some ⟨opcode, ← parseOperands line lastColumn rest⟩
    else .error (.malformed line (column t) (.expectedInstruction t.text))

/-- The number of bytes up to the last character that is not blank. -/
def trimmedLength (source : String) : Nat := Text.byteLength (Text.trimEnd source.toList)

/-- The statement on the first line of the source. -/
def parse (line : Nat) (source : String) : Except SourceError Statement := do
  let tokens ← lineTokens line source
  let (label, rest) := splitLabel tokens
  return ⟨line, label, ← parseCommand line (trimmedLength source) rest⟩

end Statement

namespace Operand

/-- The operand as source text. -/
def text : Operand → String
  | .register r => r.name
  | .immediate value => Nat.repr value.toNat
  | .label name => name

/-- The operand as a register. -/
def toRegister (line : Nat) : Operand → Except SourceError Register
  | .register r => .ok r
  | x => .error (.invalidRegister line x.text)

/-- The operand as a byte, where `address?` knows the labels. -/
def toByte (line : Nat) (address? : String → Option Nat) : Operand → Except SourceError UInt8
  | .immediate value => .ok value
  | .register r => .error (.invalidImmediate line r.name)
  | .label name =>
    match address? name with
    | none => .error (.undefinedLabel line name)
    | some address =>
      if address < 256 then .ok (UInt8.ofNat address)
      else .error (.invalidImmediate line (name ++ " = " ++ Nat.repr address))

end Operand

/-- The instruction that a command stands for, where `address?` knows the labels. -/
def Command.instruction (line : Nat) (address? : String → Option Nat) (c : Command) :
    Except SourceError Instruction :=
  match c.opcode, c.operands with
  | .hlt, [] => .ok .hlt
  | .ret, [] => .ok .ret
  | .prn, [a] => do return .prn (← a.toRegister line)
  | .push, [a] => do return .push (← a.toRegister line)
  | .pop, [a] => do return .pop (← a.toRegister line)
  | .call, [a] => do return .call (← a.toRegister line)
  | .ldi, [a, b] => do return .ldi (← a.toRegister line) (← b.toByte line address?)
  | .add, [a, b] => do return .alu .add (← a.toRegister line) (← b.toRegister line)
  | .mul, [a, b] => do return .alu .mul (← a.toRegister line) (← b.toRegister line)
  | opcode, operands => .error (.malformed line 1 (.operandCount opcode operands.length))

/-- The one instruction that the text is. No label has an address here. -/
def instructionOf (text : String) : Except SourceError Instruction := do
  let s ← Statement.parse 1 text
  match s.command with
  | some c => c.instruction s.line fun _ => none
  | none => .error (.malformed 1 1 .emptyInstruction)

/-- The register that the text starts with, blanks and comments aside. The
error belongs to no line and says line 0. -/
def registerOf (text : String) : Except SourceError Register :=
  let trimmed := String.ofList (Text.trim text.toList)
  match (Token.scan trimmed).head?.map Token.kind with
  | some (.register n) =>
    match Register.ofNat? n with
    | some r => .ok r
    | none => .error (.invalidRegister 0 trimmed)
  | _ => .error (.invalidRegister 0 trimmed)

end ByteMachine.Source
