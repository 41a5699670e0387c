import ByteMachine.Register
import ByteMachine.Text.Lines
import ByteMachine.Text.Numeral

/-
  Tokens of source text. Eight rules say what a token looks like; where
  several match, the one that reaches farthest wins, and of two that reach
  equally far the one listed first. Blanks, tabs, carriage returns and
  comments separate tokens and are none themselves; a newline is a token. What
  no rule matches is stray, one character at a time, and so is a number of
  more than sixteen bits, as a whole.
-/

namespace ByteMachine.Source

/-! ## Rules -/

/-- The ways to spell a token. -/
inductive Rule where
  /-- `R` and digits, or `SP`, in either case. -/
  | register
  /-- A letter or underscore, then letters, digits and underscores. -/
  | word
  /-- Decimal digits. -/
  | decimal
  /-- `0x` and hexadecimal digits. -/
  | hex
  /-- `0b` and binary digits. -/
  | binary
  | comma
  | colon
  | newline
  deriving DecidableEq, Repr

/-- Whether a word may start with the character. -/
def startsWord (c : Char) : Bool := c.isAlpha || c == '_'

/-- Whether a word may go on with the character. -/
def continuesWord (c : Char) : Bool := c.isAlphanum || c == '_'

/-- How many characters at the front of the text satisfy `p`. -/
def runLength (p : Char → Bool) (cs : List Char) : Nat := (cs.takeWhile p).length

/-- A start of `skipped` characters is worth something only if a digit follows it. -/
def afterMark (skipped : Nat) (p : Char → Bool) (cs : List Char) : Nat :=
  if runLength p cs = 0 then 0 else skipped + runLength p cs

namespace Rule

/-- Every rule, the stronger of two before the weaker. -/
def all : List Rule := [.register, .word, .decimal, .hex, .binary, .comma, .colon, .newline]

/-- The length of the longest token at the front of the text that the rule spells, 0 if none. -/
def reach : Rule → List Char → Nat
  | .register, 'r' :: cs | .register, 'R' :: cs => afterMark 1 Char.isDigit cs
  | .register, c :: d :: _ => if (c = 's' ∨ c = 'S') ∧ (d = 'p' ∨ d = 'P') then 2 else 0
  | .word, c :: cs => if startsWord c then 1 + runLength continuesWord cs else 0
  | .decimal, cs => runLength Char.isDigit cs
  | .hex, '0' :: 'x' :: cs | .hex, '0' :: 'X' :: cs => afterMark 2 Text.isHexDigit cs
  | .binary, '0' :: 'b' :: cs | .binary, '0' :: 'B' :: cs => afterMark 2 Text.isBit cs
  | .comma, ',' :: _ => 1
  | .colon, ':' :: _ => 1
  | .newline, '\n' :: _ => 1
  | _, _ => 0

/-- The better of what was found so far and the next rule, which has to reach farther. -/
def better (cs : List Char) (best : Option (Rule × Nat)) (rule : Rule) : Option (Rule × Nat) :=
  if rule.reach cs > (best.map (·.2)).getD 0 then some (rule, rule.reach cs) else best

/-- The rule that reaches farthest, with the length of its token. -/
def farthest (cs : List Char) : Option (Rule × Nat) := all.foldl (better cs) none

end Rule

namespace Rule

theorem reach_pos_of_better {cs : List Char} {best : Option (Rule × Nat)}
    (hbest : ∀ f, best = some f → 0 < f.2) {rule : Rule} {f : Rule × Nat}
    (h : better cs best rule = some f) : 0 < f.2 := by
  unfold better at h
  split at h
  · cases h
    show 0 < rule.reach cs
    omega
  · exact hbest f h

theorem reach_pos_of_foldl {cs : List Char} {f : Rule × Nat} (rules : List Rule) :
    ∀ {best : Option (Rule × Nat)}, (∀ g, best = some g → 0 < g.2) →
      rules.foldl (better cs) best = some f → 0 < f.2 := by
  induction rules with
  | nil => exact fun hbest h => hbest f h
  | cons rule rules ih => exact fun hbest h => ih (fun g hg => reach_pos_of_better hbest hg) h

/-- A rule that wins spells at least one character. -/
theorem pos_of_farthest {cs : List Char} {rule : Rule} {n : Nat}
    (h : farthest cs = some (rule, n)) : 0 < n :=
  reach_pos_of_foldl all (by simp) h

end Rule

/-! ## Tokens -/

/-- What a token is, with its number if it has one. -/
inductive Kind where
  | word
  | register (number : Nat)
  | decimal (value : Nat)
  | hex (value : Nat)
  | binary (value : Nat)
  | comma
  | colon
  | newline
  | stray
  deriving DecidableEq, Repr

/-- The greatest number a token may carry. -/
def greatestNumber : Nat := 65535

/-- The kind with the number, if the number is in range. -/
def Kind.bounded (kind : Nat → Kind) (n : Nat) : Kind :=
  if n ≤ greatestNumber then kind n else .stray

/-- The number of the register that a token of the register rule names. -/
def registerNumber : List Char → Nat
  | 'r' :: digits | 'R' :: digits => Text.numeral 10 digits
  | _ => Register.sp.index

/-- The kind of a token that the rule spells. -/
def Rule.kind : Rule → List Char → Kind
  | .register, text => .bounded .register (registerNumber text)
  | .word, _ => .word
  | .decimal, text => .bounded .decimal (Text.numeral 10 text)
  | .hex, text => .bounded .hex (Text.numeral 16 (text.drop 2))
  | .binary, text => .bounded .binary (Text.numeral 2 (text.drop 2))
  | .comma, _ => .comma
  | .colon, _ => .colon
  | .newline, _ => .newline

/-- A piece of the source: what it is, how it is written, and the byte where it starts. -/
structure Token where
  kind : Kind
  text : String
  start : Nat
  deriving DecidableEq, Repr

namespace Token

/-- The kind and length of the token at the front of a text that is not empty. -/
def first (cs : List Char) : Kind × Nat :=
  match Rule.farthest cs with
  | some (rule, n) => (rule.kind (cs.take n), n)
  | none => (.stray, 1)

/-- A token has at least one character. -/
theorem first_pos (cs : List Char) : 0 < (first cs).2 := by
  unfold first
  split
  · next h => exact Rule.pos_of_farthest h
  · exact Nat.one_pos

/-- Whether the character only separates tokens. -/
def isGap (c : Char) : Bool := c == ' ' || c == '\t' || c == '\r'

/-- Whether the character opens a comment, which goes on to the end of the line. -/
def opensComment (c : Char) : Bool := c == ';' || c == '#'

/-- The tokens of a text whose first character is the byte `start` of the source. -/
def scanFrom (start : Nat) (cs : List Char) : List Token :=
  match cs with
  | [] => []
  | c :: rest =>
    if isGap c then scanFrom (start + 1) rest
    else if opensComment c then
      scanFrom (start + 1 + Text.byteLength (Text.beforeNewline rest)) (Text.fromNewline rest)
    else
      let taken := (c :: rest).take (first (c :: rest)).2
      ⟨(first (c :: rest)).1, String.ofList taken, start⟩
        :: scanFrom (start + Text.byteLength taken) ((c :: rest).drop (first (c :: rest)).2)
termination_by cs.length
decreasing_by
  · simp
  · have := Text.length_dropWhile_le (· != '\n') rest
    simp only [Text.fromNewline, List.length_cons]
    omega
  · have := first_pos (c :: rest)
    simp only [List.length_drop, List.length_cons]
    omega

/-- The tokens of the source. -/
def scan (source : String) : List Token := scanFrom 0 source.toList

end Token

end ByteMachine.Source
