import ByteMachine.Text.Pattern.Atom

/-
  Classes of characters in patterns: items between brackets. An item is a
  character, a range, a named class of ASCII or a class in brackets of its
  own; operators combine the items on their two sides. What has been read of
  a class is kept as what bears on its form: how deeply it is nested, and
  whether it can have members. A complement always has bytes beyond ASCII,
  which are parts of characters, so there is none among bytes.
-/

namespace ByteMachine.Text.Pattern

/-- Items of a class that stand next to each other. -/
structure Items where
  count : Nat := 0
  depth : Nat := 0
  /-- Whether an item can have members. -/
  haveMembers : Bool := false
  deriving DecidableEq, Repr

namespace Items

/-- The items with one that names its members. -/
def addNamed (s : Items) : Items := { s with count := s.count + 1, haveMembers := true }

/-- The items with a class in brackets. -/
def addClass (s c : Items) : Items :=
  ⟨s.count + 1, max s.depth c.depth, s.haveMembers || c.haveMembers⟩

/-- The items as one; two and more of them are nested in their union. -/
def union (s : Items) : Items := { s with depth := if 2 ≤ s.count then s.depth + 1 else s.depth }

/-- Whether the case of the members can be disregarded if it has to be. -/
def canFold (flags : Flags) (s : Items) : Bool :=
  !(flags.anyCase && flags.characters && s.haveMembers)

end Items

/-- A class that has been opened and not closed. -/
structure Bracket where
  isNegated : Bool
  /-- The first operand, once an operator has been read. -/
  left : Option Items := none
  items : Items := {}
  deriving DecidableEq, Repr

namespace Bracket

/-- What stands in the bracket so far. -/
def content? (flags : Flags) (b : Bracket) : Option Items :=
  let right := b.items.union
  match b.left with
  | none => some right
  | some left =>
    if left.canFold flags && right.canFold flags then
      some ⟨1, max left.depth right.depth + 1, left.haveMembers || right.haveMembers⟩
    else none

/-- The bracket behind an operator. -/
def operate? (flags : Flags) (b : Bracket) : Option Bracket := do
  return { b with left := some (← b.content? flags), items := {} }

/-- The class that the bracket holds. -/
def close? (flags : Flags) (b : Bracket) : Option Items := do
  let content ← b.content? flags
  if content.canFold flags && (flags.characters || !b.isNegated) then
    return ⟨1, content.depth + 1, content.haveMembers || b.isNegated⟩
  else none

/-- How many dashes stand at the beginning, and the rest. -/
def leadingDashes (flags : Flags) (cs : List Char) : Nat × List Char :=
  match _h : flags.skip cs with
  | '-' :: rest =>
    let (n, rest) := leadingDashes flags rest
    (n + 1, rest)
  | rest => (0, rest)
termination_by cs.length
decreasing_by
  have := flags.length_skip_le cs
  simp_all only [List.length_cons]
  omega

/-- The bracket that opens, and the rest behind what is only special there:
the sign of a complement, dashes, and a closing bracket that comes first. -/
def start (flags : Flags) (cs : List Char) : Bracket × List Char :=
  let (isNegated, cs) := match flags.skip cs with
    | '^' :: rest => (true, rest)
    | rest => (false, rest)
  match leadingDashes flags cs with
  | (0, ']' :: rest) => (⟨isNegated, none, Items.addNamed {}⟩, rest)
  | (n, rest) => (⟨isNegated, none, ⟨n, 0, n != 0⟩⟩, rest)

end Bracket

/-! ## Items -/

/-- The named classes of ASCII. -/
def classNames : List String :=
  ["alnum", "alpha", "ascii", "blank", "cntrl", "digit", "graph", "lower", "print", "punct",
   "space", "upper", "word", "xdigit"]

/-- Reads a named class behind its opening bracket: whether it is negated, and the rest. -/
def readNamed : List Char → Option (Bool × List Char)
  | ':' :: cs =>
    let (isNegated, cs) := match cs with
      | '^' :: rest => (true, rest)
      | _ => (false, cs)
    match cs.dropWhile (· != ':') with
    | ':' :: ']' :: rest =>
      if classNames.contains (String.ofList (cs.takeWhile (· != ':'))) then some (isNegated, rest)
      else none
    | _ => none
  | _ => none

/-- Reads the character or escape that an item begins with. -/
def readMember (flags : Flags) : List Char → Option (Atom × List Char)
  | [] => none
  | '\\' :: rest => Atom.readEscape flags rest
  | c :: rest => some (.literal c false, rest)

/-- The character to come behind a dash, as far as it tells whether the dash makes a range. -/
def afterDash (flags : Flags) (cs : List Char) : Option Char :=
  if flags.spaced then
    match cs.dropWhile isBlank with
    | '#' :: rest => (rest.dropWhile isBlank).head?
    | rest => rest.head?
  else cs.head?

/-- Reads a character, an escape or a range, and gives the rest. -/
def readItem (flags : Flags) (cs : List Char) : Option (List Char) := do
  let (first, rest) ← readMember flags cs
  let single := if first.fitsClass flags then some (flags.skip rest) else none
  match flags.skip rest with
  | '-' :: after =>
    if afterDash flags after = some ']' || afterDash flags after = some '-' then single
    else
      let (last, rest) ← readMember flags (flags.skip after)
      match first, last with
      | .literal low _, .literal high _ =>
        if low ≤ high && first.fitsClass flags && last.fitsClass flags then some rest else none
      | _, _ => none
  | _ => single

/-! ## Classes -/

/-- Reads the rest of a class: the innermost bracket, those around it, and as
many steps as there are characters. It gives the class and what follows it. -/
def readBrackets (flags : Flags) : Nat → Bracket → List Bracket → List Char →
    Option (Items × List Char)
  | 0, _, _, _ => none
  | steps + 1, b, outer, cs =>
    match flags.skip cs with
    | [] => none
    | '[' :: rest =>
      match readNamed rest with
      | some (isNegated, rest) =>
        if flags.characters || !isNegated then
          readBrackets flags steps { b with items := b.items.addNamed } outer rest
        else none
      | none =>
        let (inner, rest) := Bracket.start flags rest
        readBrackets flags steps inner (b :: outer) rest
    | ']' :: rest => do
      let closed ← b.close? flags
      match outer with
      | [] => return (closed, rest)
      | around :: outer =>
        readBrackets flags steps { around with items := around.items.addClass closed } outer rest
    | '&' :: '&' :: rest => do readBrackets flags steps (← b.operate? flags) outer rest
    | '-' :: '-' :: rest => do readBrackets flags steps (← b.operate? flags) outer rest
    | '~' :: '~' :: rest => do readBrackets flags steps (← b.operate? flags) outer rest
    | cs => do
      let rest ← readItem flags cs
      readBrackets flags steps { b with items := b.items.addNamed } outer rest

/-- Reads a class behind its opening bracket: how deeply it is nested, and the rest. -/
def readClass (flags : Flags) (cs : List Char) : Option (Nat × List Char) := do
  let (b, rest) := Bracket.start flags cs
  let (items, rest) ← readBrackets flags (rest.length + 1) b [] rest
  return (items.depth, rest)

end ByteMachine.Text.Pattern
