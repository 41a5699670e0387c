import ByteMachine.Image
import ByteMachine.Text.Blank
import ByteMachine.Text.Lines
import ByteMachine.Text.Numeral
import ByteMachine.Text.Quoted

/-
  Images as text, one byte a line in binary digits. A line ends at a `#`,
  blanks around the digits do not count, and a line with nothing left is
  skipped. One to eight digits are a byte; anything else is refused. The text
  is not held against the size of the memory: that is for loading to decide.
-/

namespace ByteMachine.Image

/-- A line that is not a byte: its number, counted from 1, and what it holds. -/
structure BadLiteral where
  line : Nat
  text : String
  deriving DecidableEq, Repr

/-- The refusal in words. -/
def BadLiteral.message (e : BadLiteral) : String :=
  "Invalid binary literal at line " ++ Nat.repr e.line ++ ": " ++ Text.quote e.text

/-- What a line holds besides its comment and the blanks around. -/
def literalOf (line : List Char) : List Char := Text.trim (line.takeWhile (· != '#'))

/-- The byte that one to eight binary digits stand for. -/
def byteOf? (literal : List Char) : Option UInt8 :=
  if literal ≠ [] ∧ literal.length ≤ 8 ∧ literal.all Text.isBit then
    some (UInt8.ofNat (Text.numeral 2 literal))
  else none

/-- The bytes on the lines, of which the first has the number `line`. -/
def bytesOfLines (line : Nat) : List (List Char) → Except BadLiteral (List UInt8)
  | [] => .ok []
  | l :: ls =>
    let literal := literalOf l
    if literal = [] then bytesOfLines (line + 1) ls
    else match byteOf? literal with
      | none => .error ⟨line, String.ofList literal⟩
      | some b => do return b :: (← bytesOfLines (line + 1) ls)

/-- The image that the text describes. -/
def ofBinaryText (text : String) : Except BadLiteral Image := do
  return ⟨← bytesOfLines 1 (Text.lines text.toList)⟩

/-- The image as text: eight digits and a newline for each byte. -/
def binaryText (image : Image) : String :=
  String.join (image.bytes.map fun b => Text.bits b ++ "\n")

end ByteMachine.Image
