import ByteMachine.Text.Blank
import ByteMachine.Text.Numeral

/-
  Atoms of patterns: what one character of a pattern or one escape stands for,
  and the flags it depends on. A matcher for these patterns compares
  characters and knows nothing else about them beyond ASCII. So it cannot
  disregard their case, and has no categories of characters and no edges of
  words, unless the pattern asks for bytes; then it must not match a part of
  a character.
-/

namespace ByteMachine.Text.Pattern

/-- The flags of a pattern on which its form depends. -/
structure Flags where
  /-- Letters stand for either case. -/
  anyCase : Bool := false
  /-- The pattern matches characters, and not bytes. -/
  characters : Bool := true
  /-- Blanks and comments in the pattern stand for nothing. -/
  spaced : Bool := false
  deriving DecidableEq, Repr

/-- The rest of a pattern without the blanks and comments before it, within a comment or not. -/
def skipSpace : Bool → List Char → List Char
  | _, [] => []
  | true, c :: cs => skipSpace (c != '\n') cs
  | false, c :: cs =>
    if isBlank c then skipSpace false cs
    else if c = '#' then skipSpace true cs
    else c :: cs

/-- The rest of a pattern from where it goes on. -/
def Flags.skip (flags : Flags) (cs : List Char) : List Char :=
  if flags.spaced then skipSpace false cs else cs

theorem length_skipSpace_le (inComment : Bool) (cs : List Char) :
    (skipSpace inComment cs).length ≤ cs.length := by
  induction cs generalizing inComment with
  | nil => cases inComment <;> simp [skipSpace]
  | cons c cs ih =>
    have ht := ih true
    have hf := ih false
    have hc := ih (c != '\n')
    cases inComment with
    | true => simp only [skipSpace, List.length_cons]; omega
    | false =>
      simp only [skipSpace, List.length_cons]
      split
      · omega
      · split
        · omega
        · simp

theorem Flags.length_skip_le (flags : Flags) (cs : List Char) :
    (flags.skip cs).length ≤ cs.length := by
  unfold Flags.skip
  split
  · exact length_skipSpace_le false cs
  · exact Nat.le_refl _

/-- What stands at one place of a pattern. -/
inductive Atom where
  /-- A character, which may be written as the byte of two digits. -/
  | literal (c : Char) (asByte : Bool)
  /-- Any character but a newline. -/
  | any
  /-- The beginning or the end of a line or of the text. -/
  | anchor
  /-- The edge of a word, or no edge. -/
  | wordEdge
  /-- The digits, the blanks or the characters of words, or all others. -/
  | category (isNegated : Bool)
  deriving DecidableEq, Repr

namespace Atom

/-- Whether the atom can be matched under the flags. -/
def fits (flags : Flags) : Atom → Bool
  | literal c asByte =>
    if flags.characters then !flags.anyCase else !(asByte && 0x7F < c.toNat)
  | any => flags.characters
  | anchor => true
  | wordEdge => !flags.characters
  | category isNegated => !flags.characters && !isNegated

/-- Whether the atom can be an item of a class under the flags. -/
def fitsClass (flags : Flags) : Atom → Bool
  | literal c _ => flags.characters || c.toNat ≤ 0x7F
  | category isNegated => !flags.characters && !isNegated
  | _ => false

/-! ## Escapes -/

/-- The number of digits behind the letter of an escape by code point. -/
def codeWidth? : Char → Option Nat
  | 'x' => some 2
  | 'u' => some 4
  | 'U' => some 8
  | _ => none

/-- A number of hexadecimal digits at the beginning of a pattern, and the rest. -/
def readDigits (flags : Flags) : Nat → List Char → Option (List Char × List Char)
  | 0, cs => some ([], cs)
  | n + 1, cs =>
    match flags.skip cs with
    | c :: rest =>
      if isHexDigit c then do
        let (digits, rest) ← readDigits flags n rest
        return (c :: digits, rest)
      else none
    | [] => none

/-- The character with the code point. -/
def charOf? (n : Nat) : Option Char := if n.isValidChar then some (Char.ofNat n) else none

/-- The atom of a one-letter escape. Other ASCII characters than letters and
digits may be escaped to stand for themselves. -/
def ofEscaped? : Char → Option Atom
  | 'a' => some (.literal '\x07' false)
  | 'f' => some (.literal '\x0C' false)
  | 'n' => some (.literal '\n' false)
  | 'r' => some (.literal '\r' false)
  | 't' => some (.literal '\t' false)
  | 'v' => some (.literal '\x0B' false)
  | 'A' | 'z' => some .anchor
  | 'b' | 'B' | '<' | '>' => some .wordEdge
  | 'd' | 's' | 'w' => some (.category false)
  | 'D' | 'S' | 'W' => some (.category true)
  | c => if c.isAlphanum || 0x7F < c.toNat then none else some (.literal c false)

/-- The atom of an escape, behind its backslash, and the rest of the pattern. -/
def readEscape (flags : Flags) : List Char → Option (Atom × List Char)
  | [] => none
  | c :: rest =>
    match codeWidth? c with
    | some width => do
      let (digits, rest) ← readDigits flags width rest
      return (.literal (← charOf? (numeral 16 digits)) (c == 'x'), rest)
    | none => do return (← ofEscaped? c, rest)

end Atom

end ByteMachine.Text.Pattern
