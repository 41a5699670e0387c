import ByteMachine.Proofs.Answer
import ByteMachine.Proofs.Source.Munch
import ByteMachine.Proofs.Text.Lines
import ByteMachine.Source.Assembly

/-
  Layout and comments carry no meaning. `stripped` leaves nothing of a source but the
  tokens of its lines, one blank between two. What it assembles to is the same, errors
  included, but for the columns that errors point at (`alike_stripped`):

    1. A line that was stripped has the same tokens at other places (`scan_spaced`).
    2. Parsing looks at the kinds and texts of tokens, and at places only to say where
       an error is (`alike_parse`).
    3. The lines of the stripped source are the stripped lines (`lines_stripped`), and
       nothing behind the parser sees the text of a line.
-/

namespace ByteMachine.Source

/-- The error without the column it points at. -/
def SourceError.withoutColumn : SourceError → SourceError
  | .malformed line _ form => .malformed line 0 form
  | e => e

/-- Whether two computations give the same, or errors that differ in their columns at most. -/
inductive Alike {α : Type} : Except SourceError α → Except SourceError α → Prop
  | ok (a : α) : Alike (.ok a) (.ok a)
  | error {d e : SourceError} (same : d.withoutColumn = e.withoutColumn) :
      Alike (.error d) (.error e)

/-- A line with its tokens only, one blank between two. -/
def spaced (line : List Char) : String :=
  " ".intercalate ((Token.scan (String.ofList line)).map Token.text)

/-- A source whose lines have their tokens only. -/
def stripped (source : String) : String :=
  String.ofList ((Text.lines source.toList).flatMap fun line => (spaced line).toList ++ ['\n'])

/-! ## Tokens of a stripped line -/

namespace Token

/-- The token without its place. -/
def unplaced (t : Token) : Token := { t with start := 0 }

/-- Tokens written with blanks between them are those tokens again. -/
theorem scanFrom_intercalate : ∀ (start : Nat) {ts : List Token},
    (∀ t ∈ ts, Stands t.kind t.text.toList) →
      (scanFrom start ([' '].intercalate (ts.map fun t => t.text.toList))).map unplaced =
        ts.map unplaced
  | start, [], _ => by
    rw [List.map_nil, List.intercalate_nil, scanFrom_nil]
  | start, [t], stands => by
    have whole := (stands t (by simp)).scanFrom start boundary_nil
    rw [List.append_nil, scanFrom_nil, String.ofList_toList] at whole
    rw [List.map_singleton, List.intercalate_singleton, whole]
    rfl
  | start, t :: next :: ts, stands => by
    have later : ∀ u ∈ next :: ts, Stands u.kind u.text.toList :=
      fun u mem => stands u (List.mem_cons_of_mem t mem)
    have rest := scanFrom_intercalate (start + Text.byteLength t.text.toList + 1) later
    rw [List.map_cons] at rest
    rw [List.map_cons, List.map_cons, List.intercalate_cons_cons, List.append_assoc,
      List.singleton_append, (stands t (by simp)).scanFrom start (by simp [continuesWord]),
      String.ofList_toList, scanFrom_gap _ rfl, List.map_cons, List.map_cons, rest]
    rfl

/-- A stripped line has the tokens of the line. -/
theorem scan_spaced (line : List Char) :
    (scan (spaced line)).map unplaced = (scan (String.ofList line)).map unplaced := by
  rw [scan, spaced, String.toList_intercalate, List.map_map]
  exact scanFrom_intercalate 0 fun t mem => (stands_of_mem_scanFrom mem).1

end Token

/-! ## Errors without their columns -/

namespace Alike
variable {α β : Type}

theorem refl (x : Except SourceError α) : Alike x x := by
  cases x with
  | ok a => exact .ok a
  | error e => exact .error rfl

theorem symm {x y : Except SourceError α} (h : Alike x y) : Alike y x := by
  cases h with
  | ok a => exact .ok a
  | error same => exact .error same.symm

theorem trans {x y z : Except SourceError α} (h : Alike x y) (h' : Alike y z) : Alike x z := by
  cases h with
  | ok a => exact h'
  | error same =>
    cases h' with
    | error same' => exact .error (same.trans same')

theorem bind {x y : Except SourceError α} {f g : α → Except SourceError β} (first : Alike x y)
    (rest : ∀ a, Alike (f a) (g a)) : Alike (x >>= f) (y >>= g) := by
  cases first with
  | ok a => exact rest a
  | error same => exact .error same

theorem ite {c : Prop} [Decidable c] {x y x' y' : Except SourceError α} (hx : Alike x x')
    (hy : Alike y y') : Alike (if c then x else y) (if c then x' else y') := by
  split
  · exact hx
  · exact hy

end Alike

/-! ## Parsing -/

namespace Statement
open Token (unplaced)

theorem alike_parseOperand (line : Nat) (t : Token) :
    Alike (parseOperand line t.unplaced) (parseOperand line t) := by
  obtain ⟨kind, text, start⟩ := t
  cases kind with
  | word | register | decimal | hex | binary => exact .refl _
  | comma | colon | newline | stray => exact .error rfl

theorem alike_parseFurther (line c c' : Nat) : ∀ ts : List Token,
    Alike (parseFurther line c (ts.map unplaced)) (parseFurther line c' ts)
  | [] => .ok _
  | [_] => .ite (.error rfl) (.error rfl)
  | _ :: t :: rest =>
    .ite ((alike_parseOperand line t).bind fun _ =>
      (alike_parseFurther line c c' rest).bind fun _ => .ok _) (.error rfl)

theorem alike_parseOperands (line c c' : Nat) : ∀ ts : List Token,
    Alike (parseOperands line c (ts.map unplaced)) (parseOperands line c' ts)
  | [] => .ok _
  | t :: rest => (alike_parseOperand line t).bind fun _ =>
      (alike_parseFurther line c c' rest).bind fun _ => .ok _

theorem alike_parseCommand (line c c' : Nat) (ts : List Token) :
    Alike (parseCommand line c (ts.map unplaced)) (parseCommand line c' ts) := by
  cases ts with
  | nil => exact .ok _
  | cons t rest =>
    apply Alike.ite
    · dsimp only [unplaced]
      cases Opcode.ofMnemonic? t.text with
      | none => exact .error rfl
      | some op => exact (alike_parseOperands line c c' rest).bind fun _ => .ok _
    · exact .error rfl

theorem splitLabel_unplaced : ∀ ts : List Token,
    splitLabel (ts.map unplaced) = ((splitLabel ts).1, (splitLabel ts).2.map unplaced)
  | [] | [_] => rfl
  | t :: c :: rest => by
    show (if t.kind = .word ∧ c.kind = .colon then (some t.text, rest.map unplaced)
      else (none, (t :: c :: rest).map unplaced)) = _
    rw [splitLabel]
    split <;> rfl

/-- The statement that tokens say, once none of them is stray. -/
def ofTokens (line lastColumn : Nat) (ts : List Token) : Except SourceError Statement := do
  let (label, rest) := splitLabel ts
  return ⟨line, label, ← parseCommand line lastColumn rest⟩

theorem alike_ofTokens (line c c' : Nat) (ts : List Token) :
    Alike (ofTokens line c (ts.map unplaced)) (ofTokens line c' ts) := by
  rw [ofTokens, ofTokens, splitLabel_unplaced]
  exact (alike_parseCommand line c c' _).bind fun _ => .ok _

/-- Two texts with the same tokens say the same. -/
theorem alike_parse {line : Nat} {a b : String}
    (same : (Token.scan a).map unplaced = (Token.scan b).map unplaced) :
    Alike (parse line a) (parse line b) := by
  have kept : ∀ ts : List Token, (ts.map unplaced).takeWhile (·.kind != .newline) =
      (ts.takeWhile (·.kind != .newline)).map unplaced := fun ts => List.takeWhile_map ..
  have found : ∀ ts : List Token, (ts.map unplaced).find? (·.kind == .stray) =
      (ts.find? (·.kind == .stray)).map unplaced := fun ts => List.find?_map ..
  have onLine := congrArg (List.takeWhile (·.kind != .newline)) same
  rw [kept, kept] at onLine
  have stray := congrArg (List.find? (·.kind == .stray)) onLine
  rw [found, found] at stray
  unfold parse lineTokens
  dsimp only
  generalize (Token.scan a).takeWhile (·.kind != .newline) = ts at *
  generalize (Token.scan b).takeWhile (·.kind != .newline) = us at *
  cases first : ts.find? (·.kind == .stray) with
  | none =>
    rw [first, Option.map_none, eq_comm, Option.map_eq_none_iff] at stray
    rw [stray]
    have one := alike_ofTokens line 0 (trimmedLength a) ts
    rw [onLine] at one
    exact one.symm.trans (alike_ofTokens line 0 (trimmedLength b) us)
  | some t =>
    rw [first, Option.map_some, eq_comm, Option.map_eq_some_iff] at stray
    obtain ⟨u, other, equal⟩ := stray
    have text : u.unplaced.text = t.unplaced.text := congrArg Token.text equal
    rw [other]
    exact .error (congrArg (SourceError.malformed line 0 <| .unexpectedInput ·) text.symm)

end Statement

/-! ## Assembling -/

theorem oneLine_intercalate : ∀ {ws : List (List Char)}, (∀ w ∈ ws, Text.OneLine w) →
    Text.OneLine ([' '].intercalate ws)
  | [], _ => Text.oneLine_nil
  | [w], one => by
    rw [List.intercalate_singleton]
    exact one w (by simp)
  | w :: v :: ws, one => by
    have later : ∀ u ∈ v :: ws, Text.OneLine u := fun u mem => one u (List.mem_cons_of_mem w mem)
    rw [List.intercalate_cons_cons, Text.oneLine_append, Text.oneLine_append]
    exact ⟨⟨one w (by simp), by simp⟩, oneLine_intercalate later⟩

/-- A stripped line is one line, and has no carriage return in it. -/
theorem oneLine_spaced {line : List Char} (h : '\n' ∉ line) : Text.OneLine (spaced line).toList := by
  rw [spaced, String.toList_intercalate, List.map_map]
  apply oneLine_intercalate
  intro w mem
  obtain ⟨t, scanned, rfl⟩ := List.mem_map.mp mem
  obtain ⟨stands, inside⟩ := Token.stands_of_mem_scanFrom scanned
  intro c hc
  constructor
  · rintro rfl
    exact h (by simpa using inside _ hc)
  · rintro rfl
    exact absurd (stands.solid _ hc).1 (by decide)

/-- The lines of a stripped source are the stripped lines. -/
theorem lines_stripped (source : String) :
    Text.lines (stripped source).toList =
      (Text.lines source.toList).map fun line => (spaced line).toList := by
  rw [stripped, String.toList_ofList]
  apply Text.lines_flatMap_of
  intro line read
  exact oneLine_spaced (Text.not_newline_of_mem_lines read)

/-- Stripped lines are laid out in the same way. -/
theorem Layout.alike_addLines (l : Layout) (line : Nat) : ∀ texts : List (List Char),
    Alike (l.addLines line (texts.map fun text => (spaced text).toList)) (l.addLines line texts)
  | [] => .ok l
  | text :: rest => by
    have same := Token.scan_spaced text
    rw [List.map_cons, Layout.addLines, Layout.addLines, Layout.addLine, Layout.addLine,
      String.ofList_toList]
    refine ((Statement.alike_parse same).bind fun s => .refl _).bind fun next => ?_
    exact alike_addLines next (line + 1) rest

/-- Layout and comments carry no meaning: a source assembles to what it does without them, and is
refused for the same reason on the same line. -/
theorem alike_stripped (source : String) : Alike (assemble (stripped source)) (assemble source) := by
  have laid : Alike (Layout.ofSource (stripped source)) (Layout.ofSource source) := by
    rw [Layout.ofSource, lines_stripped]
    exact Layout.alike_addLines .empty 1 _
  exact (laid.bind fun layout => .refl _).bind fun assembly => .refl _

/-- Tabs, a comment and the return before the newline are gone; the label keeps its colon. -/
example : stripped "a:\tLDI R0,65 ; once\r\n\n70000 é" = "a : LDI R0 , 65\n\n70000 é\n" := by cbv

end ByteMachine.Source
