import ByteMachine.Text.Visible

/-
  Quoted text: how a diagnostic shows a piece of source, between double quotes
  and on one line whatever it holds. A quote or backslash is escaped, the four
  controls with a name of their own have a letter, any other hidden character
  is its code point in braces, and all else stands for itself.
-/

namespace ByteMachine.Text

/-- One character as it stands between the quotes. -/
def quotedChar (c : Char) : List Char :=
  if c = '"' || c = '\\' then ['\\', c]
  else if c = '\t' then ['\\', 't']
  else if c = '\r' then ['\\', 'r']
  else if c = '\n' then ['\\', 'n']
  else if c.toNat = 0 then ['\\', '0']
  else if isVisible c then [c]
  else ['\\', 'u', '\x7b'] ++ Nat.toDigits 16 c.toNat ++ ['\x7d']

/-- The text between double quotes. -/
def quoted (cs : List Char) : List Char := '"' :: cs.flatMap quotedChar ++ ['"']

/-- The string between double quotes. -/
def quote (s : String) : String := String.ofList (quoted s.toList)

end ByteMachine.Text
