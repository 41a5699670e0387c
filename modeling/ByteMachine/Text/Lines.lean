/-
  Lines of a text. A newline ends a line, together with a carriage return
  right before it; what follows the last newline is a line of its own unless
  it is empty. Offsets and columns count bytes of UTF-8.
-/

namespace ByteMachine.Text

/-- The length of the text in bytes of UTF-8. -/
def byteLength : List Char → Nat
  | [] => 0
  | c :: cs => c.utf8Size + byteLength cs

theorem byteLength_append (a b : List Char) :
    byteLength (a ++ b) = byteLength a + byteLength b := by
  induction a with
  | nil => simp [byteLength]
  | cons c a ih => simp [byteLength, ih, Nat.add_assoc]

theorem length_dropWhile_le {α : Type} (p : α → Bool) (l : List α) :
    (l.dropWhile p).length ≤ l.length :=
  (List.dropWhile_suffix p).length_le

/-- The line without the carriage return that ends it, if one does. -/
def dropReturn (line : List Char) : List Char :=
  if line.getLast? = some '\r' then line.dropLast else line

/-- Everything before the first newline. -/
def beforeNewline (cs : List Char) : List Char := cs.takeWhile (· != '\n')

/-- Everything from the first newline on. -/
def fromNewline (cs : List Char) : List Char := cs.dropWhile (· != '\n')

theorem length_lt_of_fromNewline {cs rest : List Char} {c : Char}
    (h : fromNewline cs = c :: rest) : rest.length < cs.length := by
  have := length_dropWhile_le (· != '\n') cs
  rw [show cs.dropWhile (· != '\n') = c :: rest from h, List.length_cons] at this
  omega

/-- The lines of the text, without the newlines and the carriage returns before them. -/
def lines (cs : List Char) : List (List Char) :=
  match _h : fromNewline cs with
  | [] => if cs = [] then [] else [cs]
  | _ :: rest => dropReturn (beforeNewline cs) :: lines rest
termination_by cs.length
decreasing_by exact length_lt_of_fromNewline _h

end ByteMachine.Text
