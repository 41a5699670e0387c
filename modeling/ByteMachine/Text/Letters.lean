/-
  The case of letters. Only the letters of ASCII have a case here; every other
  character is the same in both.
-/

namespace ByteMachine.Text

/-- The string in upper case. -/
def upper (s : String) : String := String.ofList (s.toList.map Char.toUpper)

/-- Whether two strings differ at most in the case of their letters. -/
def sameLetters (s t : String) : Bool := s.toList.map Char.toLower == t.toList.map Char.toLower

theorem sameLetters_iff {s t : String} :
    sameLetters s t = true ↔ s.toList.map Char.toLower = t.toList.map Char.toLower := by
  simp [sameLetters]

end ByteMachine.Text
