import ByteMachine.Text.Alphanumeric
import ByteMachine.Text.Pattern.CharClass

/-
  Patterns: which texts describe a set of texts to look for.

  A pattern is a sequence of terms, or several with `|` between them. A term
  is an atom, a class in brackets or a group in parentheses, and may be
  repeated by `?`, `*` or `+`. A group may have a name or flags; flags alone
  in parentheses hold up to the end of the group around them. Counted
  repetition does not occur, since braces cannot stand in a pattern.
-/

namespace ByteMachine.Text.Pattern

/-- How deeply a pattern may be nested. -/
def depthLimit : Nat := 250

/-- Terms that follow each other. -/
structure Sequence where
  count : Nat := 0
  depth : Nat := 0
  /-- The depth of the last term, if there is one that may be repeated. -/
  last : Option Nat := none
  deriving DecidableEq, Repr

namespace Sequence

/-- The sequence with a term of the depth. -/
def add (s : Sequence) (depth : Nat) : Sequence := ⟨s.count + 1, max s.depth depth, some depth⟩

/-- The sequence with a change of flags, which is no term to repeat. -/
def addFlags (s : Sequence) : Sequence := { s with count := s.count + 1, last := none }

/-- The sequence with its last term repeated. -/
def repeatLast? (s : Sequence) : Option Sequence :=
  s.last.map fun depth => { s with depth := max s.depth (depth + 1), last := some (depth + 1) }

/-- The depth of the sequence as one. -/
def nested (s : Sequence) : Nat := if 2 ≤ s.count then s.depth + 1 else s.depth

end Sequence

/-- What is open at a place of a pattern: a group, or the pattern as a whole. -/
structure Level where
  flags : Flags := {}
  /-- The depth of the alternatives before the last `|`. -/
  alternatives : Option Nat := none
  terms : Sequence := {}
  deriving DecidableEq, Repr

namespace Level

/-- The depth of what the level holds. -/
def depth (l : Level) : Nat :=
  match l.alternatives with
  | none => l.terms.nested
  | some depth => max depth l.terms.nested + 1

/-- The level behind a `|`. -/
def alternate (l : Level) : Level :=
  { l with alternatives := some (max (l.alternatives.getD 0) l.terms.nested), terms := {} }

end Level

/-- What has been read of a pattern. -/
structure Reading where
  level : Level := {}
  /-- The levels around, the innermost first. -/
  outer : List Level := []
  /-- The names of groups. -/
  names : List String := []
  deriving DecidableEq, Repr

namespace Reading

/-- The reading with a term of the depth. -/
def addTerm (r : Reading) (depth : Nat) : Reading :=
  { r with level := { r.level with terms := r.level.terms.add depth } }

/-- The reading with an atom, if that can be matched. -/
def addAtom? (r : Reading) (atom : Atom) : Option Reading :=
  if atom.fits r.level.flags then some (r.addTerm 0) else none

/-! ## Groups -/

/-- The reading within a new group. -/
def openGroup (r : Reading) (flags : Flags) : Reading :=
  { r with level := { flags := flags }, outer := r.level :: r.outer }

/-- The reading behind a group. -/
def closeGroup? (r : Reading) : Option Reading :=
  match r.outer with
  | [] => none
  | level :: outer => some ({ r with level := level, outer := outer }.addTerm (r.level.depth + 1))

/-- Whether the text can name a group. -/
def isName : List Char → Bool
  | [] => false
  | c :: rest =>
    (c == '_' || isAlphabetic c)
      && rest.all fun c => c == '_' || c == '.' || c == '[' || c == ']' || isAlphanumeric c

/-- Reads the name of a group, behind its opening angle bracket. -/
def readName (r : Reading) (cs : List Char) : Option (Reading × List Char) :=
  let name := cs.takeWhile (· != '>')
  match cs.dropWhile (· != '>') with
  | _ :: rest =>
    if isName name && !r.names.contains (String.ofList name) then
      let named := { r with names := String.ofList name :: r.names }
      some (named.openGroup r.level.flags, rest)
    else none
  | [] => none

/-- The flags after a setting. The flags behind a minus sign are lowered. -/
def setFlags (flags : Flags) (setting : List Char) : Flags :=
  let raised := setting.takeWhile (· != '-')
  let after (flag : Char) (before : Bool) : Bool :=
    if raised.contains flag then true else if setting.contains flag then false else before
  ⟨after 'i' flags.anyCase, after 'u' flags.characters, after 'x' flags.spaced⟩

/-- Whether the text sets flags: each at most once, and some behind a minus sign. -/
def isSetting (setting : List Char) : Bool :=
  setting.all ['i', 'm', 's', 'u', 'x', 'R', 'U', '-'].contains && setting.eraseDups == setting
    && setting.getLast? != some '-'

/-- Reads a setting of flags behind its question mark, alone or for a group. -/
def readFlags (r : Reading) (cs : List Char) : Option (Reading × List Char) :=
  let endsFlags (c : Char) : Bool := c == ':' || c == ')'
  let setting := cs.takeWhile (!endsFlags ·)
  let flags := setFlags r.level.flags setting
  if !isSetting setting then none
  else match cs.dropWhile (!endsFlags ·) with
    | ':' :: rest => some (r.openGroup flags, rest)
    | ')' :: rest =>
      if setting = [] then none
      else some ({ r with level := { r.level with flags, terms := r.level.terms.addFlags } }, rest)
    | _ => none

/-- Reads the beginning of a group, behind its opening parenthesis. -/
def readGroup (r : Reading) (cs : List Char) : Option (Reading × List Char) :=
  match r.level.flags.skip cs with
  | '?' :: 'P' :: '<' :: rest | '?' :: '<' :: rest => r.readName rest
  | '?' :: rest => r.readFlags rest
  | rest => some (r.openGroup r.level.flags, rest)

/-! ## Terms -/

/-- Reads what begins with the character, and gives the rest. A question mark
right behind a repetition belongs to it. -/
def readTerm (r : Reading) (c : Char) (rest : List Char) : Option (Reading × List Char) :=
  match c with
  | '(' => r.readGroup rest
  | ')' => do return (← r.closeGroup?, rest)
  | '|' => some ({ r with level := r.level.alternate }, rest)
  | '[' => do
    let (depth, rest) ← readClass r.level.flags rest
    return (r.addTerm depth, rest)
  | '?' | '*' | '+' => do
    let terms ← r.level.terms.repeatLast?
    return ({ r with level := { r.level with terms } },
      match rest with
      | '?' :: rest => rest
      | _ => rest)
  | '{' => none
  | '\\' => do
    let (atom, rest) ← Atom.readEscape r.level.flags rest
    return (← r.addAtom? atom, rest)
  | '.' => do return (← r.addAtom? .any, rest)
  | '^' | '$' => do return (← r.addAtom? .anchor, rest)
  | c => do return (← r.addAtom? (.literal c false), rest)

/-- Reads a pattern to its end, in as many steps as it has characters. -/
def readAll : Nat → Reading → List Char → Option Reading
  | steps, r, cs =>
    match steps, r.level.flags.skip cs with
    | _, [] => some r
    | 0, _ => none
    | steps + 1, c :: rest => do
      let (r, rest) ← r.readTerm c rest
      readAll steps r rest

end Reading

end Pattern

/-- Whether the text is a pattern: all groups are closed, and none is nested too deeply. -/
def isPattern (text : List Char) : Bool :=
  match Pattern.Reading.readAll text.length {} text with
  | some r => r.outer.isEmpty && r.level.depth ≤ Pattern.depthLimit
  | none => false

end ByteMachine.Text
