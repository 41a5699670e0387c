import ByteMachine.Opcode
import ByteMachine.Text.Quoted

/-
  What can be wrong with a source. Every error but one points at a line,
  counted from 1; an error in the form of a line also points at a column,
  counted in bytes from 1.
-/

namespace ByteMachine.Source

/-- What is wrong with the form of a line. -/
inductive FormError where
  /-- Text that is no token. -/
  | unexpectedInput (text : String)
  /-- A token other than a word where an instruction should be named. -/
  | expectedInstruction (found : String)
  /-- A token out of place among the operands. -/
  | unexpectedToken (text : String)
  /-- A comma with no operand after it. -/
  | trailingComma
  /-- A number of operands that the opcode does not take. -/
  | operandCount (opcode : Opcode) (found : Nat)
  /-- No instruction where one is required. -/
  | emptyInstruction
  deriving DecidableEq, Repr

/-- The fault in words. -/
def FormError.message : FormError → String
  | .unexpectedInput text => "Unexpected input: " ++ Text.quote text
  | .expectedInstruction found => "Expected instruction, found " ++ Text.quote found
  | .unexpectedToken text => "Unexpected token " ++ Text.quote text
  | .trailingComma => "Trailing comma"
  | .operandCount opcode found =>
    opcode.mnemonic ++ " expects " ++ Nat.repr opcode.operandCount ++ " operand(s), found "
      ++ Nat.repr found
  | .emptyInstruction => "Empty instruction"

/-- Why a source is refused. -/
inductive SourceError where
  /-- The line does not have the form of a line. -/
  | malformed (line column : Nat) (form : FormError)
  /-- No opcode has the name. -/
  | unknownInstruction (line : Nat) (name : String)
  /-- The operand is not a register, but has to be. -/
  | invalidRegister (line : Nat) (name : String)
  /-- The operand is not a byte, but has to be. -/
  | invalidImmediate (line : Nat) (value : String)
  /-- The label is used and nowhere defined. -/
  | undefinedLabel (line : Nat) (label : String)
  /-- The label is defined on an earlier line too. -/
  | duplicateLabel (line : Nat) (label : String)
  /-- The program lies outside the architecture. -/
  | violation (cause : Violation)
  deriving DecidableEq, Repr

namespace SourceError

/-- The line the error points at. -/
def line? : SourceError → Option Nat
  | .malformed line _ _ | .unknownInstruction line _ | .invalidRegister line _
  | .invalidImmediate line _ | .undefinedLabel line _ | .duplicateLabel line _ => some line
  | .violation _ => none

/-- The error in words. -/
def message : SourceError → String
  | .malformed line column form =>
    "Syntax error at line " ++ Nat.repr line ++ ", column " ++ Nat.repr column ++ ": "
      ++ form.message
  | .unknownInstruction line name =>
    "Unknown instruction at line " ++ Nat.repr line ++ ": " ++ name
  | .invalidRegister line name => "Invalid register at line " ++ Nat.repr line ++ ": " ++ name
  | .invalidImmediate line value =>
    "Invalid immediate value at line " ++ Nat.repr line ++ ": " ++ value
  | .undefinedLabel line label => "Undefined label at line " ++ Nat.repr line ++ ": " ++ label
  | .duplicateLabel line label => "Duplicate label at line " ++ Nat.repr line ++ ": " ++ label
  | .violation cause => "Spec error: " ++ cause.message

end SourceError

end ByteMachine.Source
