import ByteMachine.Command.Notice
import ByteMachine.Text.Alphanumeric
import ByteMachine.Text.Blank
import ByteMachine.Text.Numeral
import ByteMachine.Text.Pattern
import ByteMachine.Text.Pieces

/-
  Filters: which notices are shown. A filter is a list of directives. A
  directive sets a threshold for the notices whose origin begins as it says
  and, if it names a field, which have that field. Of the directives about a
  notice the most specific one decides, and the last of those that are equally
  specific; a notice that no directive is about is not shown.

  A directive is written `origin[span{field=value}]=level`, where every part
  may be left out, or as a level alone. A setting holds directives with commas
  between them, and is of no use as a whole if one of them is malformed.
-/

namespace ByteMachine.Command

/-! ## Thresholds -/

/-- The least important level to show; nothing is shown without one. -/
abbrev Threshold := Option Level

namespace Threshold

/-- Whether notices of the level are shown. -/
def admits (t : Threshold) (level : Level) : Bool :=
  match t with
  | none => false
  | some least => level.rank ≤ least.rank

/-- The threshold that a text names: a level by its name, in upper or lower
case, or by its rank, or no level at all. -/
def ofText? (text : String) : Option Threshold :=
  match Text.number? 10 5 Char.isDigit text.toList with
  | some rank => some (Level.ofRank? rank)
  | none =>
    if Text.sameLetters "off" text then some none
    else (Level.all.find? fun level => Text.sameLetters level.name text).map some

/-- The threshold behind an equals sign, which is everything if nothing is said. -/
def ofSuffix? (text : List Char) : Option Threshold :=
  if text = [] then some (some .trace) else ofText? (String.ofList text)

end Threshold

/-! ## Directives -/

/-- What a directive asks of a field. -/
structure FieldTest where
  name : String
  /-- The value to look for, which is only done in spans. -/
  value : Option String
  deriving DecidableEq, Repr

/-- A threshold and what it is about. -/
structure Directive where
  /-- How the origin of a notice begins. -/
  origin : String
  /-- The span of work that a notice belongs to. -/
  span : Option String
  field : Option FieldTest
  threshold : Threshold
  deriving DecidableEq, Repr

namespace Directive

/-- Whether the directive is about the notice. Notices here belong to no span. -/
def isAbout (d : Directive) (n : Notice) : Bool :=
  d.origin.toList.isPrefixOf n.origin.toList && d.span.isNone &&
    match d.field with
    | none => true
    | some test => test.value.isNone && n.hasField test.name

/-- Whether the other directive is at least as specific: it has the longer
origin or, if these are equally long, the later field. -/
def yieldsTo (d other : Directive) : Bool :=
  let fieldOf (e : Directive) := e.field.map (·.name)
  ((compare d.origin.utf8ByteSize other.origin.utf8ByteSize).then
    (compare (fieldOf d) (fieldOf other))).isLE

/-- The directive that shows every notice up to the level. -/
def upTo (level : Level) : Directive := ⟨"", none, none, some level⟩

/-! ## Written directives -/

/-- The field test that is written as `name` or `name=value`. A value is a
number, or a pattern for what is looked for. -/
def fieldTest? (text : List Char) : Option FieldTest :=
  let name := String.ofList (text.takeWhile (· != '='))
  match text.dropWhile (· != '=') with
  | [] => if text = [] then none else some ⟨name, none⟩
  | _ :: rest =>
    let value := rest.takeWhile (· != '=')
    if Text.isReal value || Text.isPattern value then some ⟨name, some (String.ofList value)⟩
    else none

/-- Whether a directive may begin with the character. -/
def mayBegin (c : Char) : Bool :=
  c == '[' || c == '-' || c == ':' || c == '_' || Text.isAlphanumeric c

/-- A text that is scanned without the blanks around it, while its parts are
cut out of all of it, at the offsets that the scan has found. -/
structure Scan where
  text : List Char

namespace Scan

/-- What the scan sees from an offset on. -/
def seen (s : Scan) (offset : Nat) : List Char := (Text.trim s.text).drop offset

/-- The offset of the first character from an offset on that ends a part. -/
def find (s : Scan) (offset : Nat) (ends : Char → Bool) : Nat :=
  offset + ((s.seen offset).takeWhile (!ends ·)).length

/-- The part of the text between two offsets. -/
def cut (s : Scan) (start stop : Nat) : List Char := (s.text.drop start).take (stop - start)

/-- The threshold of a directive whose other parts end at the offset. -/
def threshold? (s : Scan) (offset : Nat) : Option Threshold :=
  match s.seen offset with
  | [] => some (some .trace)
  | '=' :: _ => Threshold.ofSuffix? (s.text.drop (offset + 1))
  | _ => none

/-- The scope that begins at the offset of an opening bracket: a span, a field
or both, and the offset behind the closing bracket. -/
def scope? (s : Scan) (start : Nat) : Option (Option String × Option FieldTest × Nat) := do
  let stop := s.find (start + 1) fun c => c == ']' || c == '{'
  let span := String.ofList (s.cut (start + 1) stop)
  match s.seen stop with
  | ']' :: _ => return (some span, none, stop + 1)
  | '{' :: _ =>
    let close := s.find (stop + 1) (· == '}')
    let field ← fieldTest? (s.cut (stop + 1) close)
    match s.seen close with
    | '}' :: ']' :: _ => return (if span = "" then none else some span, some field, close + 2)
    | _ => none
  | _ => none

end Scan

/-- The directive that the text holds. Without an equals sign or a bracket, it
is a threshold if it can be, and an origin otherwise. -/
def ofText? (text : String) : Option Directive :=
  let s : Scan := ⟨text.toList⟩
  let stop := s.find 0 fun c => c == '=' || c == '['
  let origin := String.ofList (s.cut 0 stop)
  if !(s.seen 0).head?.any mayBegin then none
  else match s.seen stop with
    | [] =>
      match Threshold.ofText? text with
      | some threshold => some ⟨"", none, none, threshold⟩
      | none => some ⟨text, none, none, some .trace⟩
    | '[' :: _ => do
      let (span, field, stop) ← s.scope? stop
      return ⟨origin, span, field, ← s.threshold? stop⟩
    | _ => do return ⟨origin, none, none, ← s.threshold? stop⟩

end Directive

/-! ## Filters -/

/-- Directives in the order in which they were set. -/
abbrev Filter := List Directive

namespace Filter

/-- The directive that decides about the notice. -/
def directive? (f : Filter) (n : Notice) : Option Directive :=
  (f.filter (·.isAbout n)).foldl
    (fun best d => match best with
      | none => some d
      | some b => if b.yieldsTo d then some d else some b)
    none

/-- Whether the notice is shown. -/
def shows (f : Filter) (n : Notice) : Bool :=
  match f.directive? n with
  | none => false
  | some d => d.threshold.admits n.level

/-- The filter that the text holds. -/
def ofText? (text : String) : Option Filter :=
  (Text.namedPieces ',' text).mapM Directive.ofText?

/-- The filter of a setting. Warnings are shown where there is no setting, or
one of no use. -/
def ofSetting (setting : Option String) : Filter :=
  (setting.bind ofText?).getD [.upTo .warn]

/-- The filter with the rows of a trace shown. -/
def withRows (f : Filter) : Filter := f ++ [⟨Notice.rowOrigin, none, none, some .trace⟩]

theorem shows_eq_false_of_forall {f : Filter} {n : Notice}
    (h : ∀ d ∈ f, d.isAbout n = false) : f.shows n = false := by
  have : f.filter (·.isAbout n) = [] := by simpa using h
  simp [shows, directive?, this]

/-- The rows shown or not, the other notices are decided about as before. -/
theorem shows_withRows {f : Filter} {n : Notice} (h : n.origin ≠ Notice.rowOrigin) :
    f.withRows.shows n = f.shows n := by
  have : Directive.isAbout ⟨Notice.rowOrigin, none, none, some .trace⟩ n = false := by
    cases n with
    | event e =>
      cases e with
      | row => exact absurd rfl h
      | _ => simp [Directive.isAbout, Notice.origin, Notice.rowOrigin, List.isPrefixOf]
    | _ => simp [Directive.isAbout, Notice.origin, Notice.rowOrigin, List.isPrefixOf]
  simp [shows, directive?, withRows, this]

end Filter

end ByteMachine.Command
