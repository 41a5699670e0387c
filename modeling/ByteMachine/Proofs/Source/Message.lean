import ByteMachine.Proofs.Source.Munch
import ByteMachine.Proofs.Source.Operands
import ByteMachine.Proofs.Source.Written
import ByteMachine.Proofs.Text.Lines
import ByteMachine.Source.Assembly

/-
  The errors of a source in words. What a message shows of the source is either between
  quotes, where the characters that end a line have spellings of their own, or the text of
  a token, and no token holds such a character. So every message takes one line:

    1. `oneLine_quote`: quoted text takes one line, whatever is quoted.
    2. `legible_parse`: a line is read as a statement whose texts are on one line, or is
       refused in words that are.
    3. `legible_ofSource`: so it is with a source as a whole.
-/

namespace ByteMachine

/-! ## Quoted texts -/

namespace Text

theorem oneLine_quotedChar (c : Char) : OneLine (quotedChar c) := by
  have hex : OneLine (Nat.toDigits 16 c.toNat) := by
    intro d hd
    obtain ⟨digit, small, rfl⟩ := exists_digitChar_of_mem (by decide) hd
    exact (oneLine_digitChar digit small).1 _ (by simp)
  by_cases quote : c = '"'
  · subst quote
    decide
  by_cases slash : c = '\\'
  · subst slash
    decide
  by_cases tab : c = '\t'
  · subst tab
    decide
  by_cases ret : c = '\r'
  · subst ret
    decide
  by_cases newline : c = '\n'
  · subst newline
    decide
  have plain : ¬ (decide (c = '"') || decide (c = '\\')) = true := by simp [quote, slash]
  rw [quotedChar, if_neg plain, if_neg tab, if_neg ret, if_neg newline]
  split
  · decide
  · split
    · simp [ret, newline]
    · simp [hex]

theorem oneLine_quote (s : String) : OneLine (quote s).toList := by
  have inner : OneLine (s.toList.flatMap quotedChar) := by
    intro c hc
    obtain ⟨d, -, hc⟩ := List.mem_flatMap.mp hc
    exact oneLine_quotedChar d c hc
  rw [quote, String.toList_ofList, quoted]
  simp [inner]

end Text

namespace Source

open Text (OneLine)

/-! ## Errors -/

theorem FormError.oneLine_message (form : FormError) : OneLine form.message.toList := by
  cases form with
  | unexpectedInput text | expectedInstruction text | unexpectedToken text =>
    exact Text.oneLine_add.mpr ⟨by decide, Text.oneLine_quote text⟩
  | trailingComma | emptyInstruction => decide
  | operandCount opcode found =>
    have mnemonic : OneLine opcode.mnemonic.toList := by cases opcode <;> decide
    show OneLine (opcode.mnemonic ++ " expects " ++ Nat.repr opcode.operandCount
      ++ " operand(s), found " ++ Nat.repr found).toList
    simp only [Text.oneLine_add, mnemonic, Text.oneLine_repr, true_and, and_true]
    decide

/-- Whether what the error shows without quotes is on one line. -/
def SourceError.Unbroken : SourceError → Prop
  | .malformed _ _ _ => True
  | .unknownInstruction _ text | .invalidRegister _ text | .invalidImmediate _ text
  | .undefinedLabel _ text | .duplicateLabel _ text => OneLine text.toList
  | .violation cause => OneLine cause.message.toList

theorem SourceError.Unbroken.oneLine_message {e : SourceError} (h : e.Unbroken) :
    OneLine e.message.toList := by
  -- Whatever the name of the error, its message has the number of the line and then the text.
  have named : ∀ {name text : String} (line : Nat), OneLine name.toList → OneLine text.toList →
      OneLine (name ++ Nat.repr line ++ ": " ++ text).toList := by
    intro name text line before behind
    simp only [Text.oneLine_add, before, behind, Text.oneLine_repr, true_and, and_true]
    decide
  cases e with
  | malformed line column form =>
    show OneLine ("Syntax error at line " ++ Nat.repr line ++ ", column " ++ Nat.repr column
      ++ ": " ++ form.message).toList
    simp only [Text.oneLine_add, Text.oneLine_repr, form.oneLine_message, and_true]
    decide
  | violation cause => exact Text.oneLine_add.mpr ⟨by decide, h⟩
  | unknownInstruction line text | invalidRegister line text | invalidImmediate line text
  | undefinedLabel line text | duplicateLabel line text => exact named line (by decide) h

/-- Whether the computation comes to a value as described or to an error in words on one line. -/
def Legible {α : Type} (good : α → Prop) : Except SourceError α → Prop
  | .ok a => good a
  | .error e => e.Unbroken

theorem Legible.bind {α β : Type} {good : α → Prop} {good' : β → Prop} {x : Except SourceError α}
    {f : α → Except SourceError β} (first : Legible good x)
    (rest : ∀ a, good a → Legible good' (f a)) : Legible good' (x >>= f) := by
  cases x with
  | ok a => exact rest a first
  | error e => exact first

/-! ## Lines -/

/-- Whether the token is written on one line. -/
def Token.Unbroken (t : Token) : Prop := OneLine t.text.toList

/-- Whether the operand is. -/
def Operand.Unbroken (x : Operand) : Prop := OneLine x.text.toList

/-- Whether all operands of the command are. -/
def Command.Unbroken (c : Command) : Prop := ∀ x ∈ c.operands, x.Unbroken

/-- Whether all texts in the statement are. -/
structure Statement.Unbroken (s : Statement) : Prop where
  label : ∀ name, s.label = some name → OneLine name.toList
  command : ∀ c, s.command = some c → c.Unbroken

namespace Statement

/-- A carriage return is a gap between tokens, and a newline is on no line. -/
theorem legible_lineTokens (line : Nat) {source : String} (flat : '\n' ∉ source.toList) :
    Legible (fun ts => ∀ t ∈ ts, t.Unbroken) (lineTokens line source) := by
  unfold lineTokens
  dsimp only
  split
  · trivial
  · intro t mem c inside
    obtain ⟨stands, taken⟩ :=
      Token.stands_of_mem_scanFrom ((List.takeWhile_prefix _).subset mem)
    constructor
    · rintro rfl
      exact flat (taken _ inside)
    · rintro rfl
      exact absurd (stands.solid _ inside).1 (by decide)

theorem legible_parseOperand (line : Nat) {t : Token} (flat : t.Unbroken) :
    Legible Operand.Unbroken (parseOperand line t) := by
  have value : ∀ v : UInt8, (Operand.immediate v).Unbroken := fun v => Text.oneLine_repr v.toNat
  unfold parseOperand
  split
  · split
    · exact oneLine_name _
    · exact flat
  · split
    · exact value _
    · exact flat
  · split
    · exact value _
    · exact flat
  · split
    · exact value _
    · exact flat
  · exact flat
  · trivial

theorem legible_parseFurther (line lastColumn : Nat) : ∀ {ts : List Token},
    (∀ t ∈ ts, t.Unbroken) →
    Legible (fun xs => ∀ x ∈ xs, Operand.Unbroken x) (parseFurther line lastColumn ts)
  | [], _ => nofun
  | [c], _ => by
    unfold parseFurther
    split <;> trivial
  | c :: t :: rest, flat => by
    unfold parseFurther
    split
    · apply (legible_parseOperand line (flat t (by simp))).bind
      intro x here
      apply (legible_parseFurther line lastColumn fun t mem => flat t (by simp [mem])).bind
      intro xs there
      exact List.forall_mem_cons.mpr ⟨here, there⟩
    · trivial

theorem legible_parseOperands (line lastColumn : Nat) {ts : List Token}
    (flat : ∀ t ∈ ts, t.Unbroken) :
    Legible (fun xs => ∀ x ∈ xs, Operand.Unbroken x) (parseOperands line lastColumn ts) := by
  cases ts with
  | nil => exact nofun
  | cons t rest =>
    apply (legible_parseOperand line (flat t (by simp))).bind
    intro x here
    apply (legible_parseFurther line lastColumn fun t mem => flat t (by simp [mem])).bind
    intro xs there
    exact List.forall_mem_cons.mpr ⟨here, there⟩

theorem legible_parseCommand (line lastColumn : Nat) {ts : List Token}
    (flat : ∀ t ∈ ts, t.Unbroken) :
    Legible (fun found => ∀ c, found = some c → c.Unbroken) (parseCommand line lastColumn ts) := by
  cases ts with
  | nil => exact nofun
  | cons t rest =>
    rw [parseCommand]
    split
    · split
      · exact flat t (by simp)
      · apply (legible_parseOperands line lastColumn fun t mem => flat t (by simp [mem])).bind
        rintro xs all c ⟨⟩
        exact all
    · trivial

theorem unbroken_splitLabel {ts : List Token} (flat : ∀ t ∈ ts, t.Unbroken) :
    (∀ name, (splitLabel ts).1 = some name → OneLine name.toList) ∧
      ∀ t ∈ (splitLabel ts).2, t.Unbroken := by
  unfold splitLabel
  split
  · split
    · refine ⟨?_, fun t mem => flat t (by simp [mem])⟩
      rintro name ⟨⟩
      exact flat _ (by simp)
    · exact ⟨nofun, flat⟩
  · exact ⟨nofun, flat⟩

theorem legible_parse (line : Nat) {text : String} (flat : '\n' ∉ text.toList) :
    Legible Statement.Unbroken (parse line text) := by
  apply (legible_lineTokens line flat).bind
  intro ts all
  obtain ⟨label, rest⟩ := unbroken_splitLabel all
  apply (legible_parseCommand line _ rest).bind
  intro command found
  exact ⟨label, found⟩

end Statement

/-! ## Sources -/

section Instructions
variable {line : Nat} {address? : String → Option Nat} {e : SourceError}

theorem Misfit.unbroken {p : Place} {x : Operand} (h : Misfit line address? p x e)
    (flat : x.Unbroken) : e.Unbroken := by
  cases h with
  | far found past =>
    exact Text.oneLine_add.mpr ⟨Text.oneLine_add.mpr ⟨flat, by decide⟩, Text.oneLine_repr _⟩
  | value | name | register | undefined => exact flat

theorem FirstMisfit.unbroken {ps : List Place} {xs : List Operand}
    (h : FirstMisfit line address? ps xs e) (flat : ∀ x ∈ xs, Operand.Unbroken x) : e.Unbroken := by
  induction h with
  | here misfit => exact misfit.unbroken (flat _ (by simp))
  | later _ _ ih => exact ih fun x mem => flat x (by simp [mem])

theorem Command.Unbroken.legible {c : Command} (flat : c.Unbroken) :
    Legible (fun _ => True) (c.instruction line address?) := by
  cases made : c.instruction line address? with
  | ok i => trivial
  | error e =>
    cases instruction_eq_error_iff.mp made with
    | count wrong => trivial
    | operand count first => exact first.unbroken flat

end Instructions

namespace Layout

/-- Whether all commands of the layout are written on one line. -/
def Unbroken (l : Layout) : Prop := ∀ p ∈ l.placed.toList, p.command.Unbroken

theorem Unbroken.place {l : Layout} (h : l.Unbroken) {s : Statement} (flat : s.Unbroken) :
    (l.place s).Unbroken := by
  unfold Layout.place
  split
  · exact h
  · next c command =>
    intro p mem
    simp only [Array.toList_push, List.mem_append, List.mem_singleton] at mem
    obtain mem | rfl := mem
    · exact h p mem
    · exact flat.command c command

theorem legible_define {l : Layout} (h : l.Unbroken) {s : Statement} (flat : s.Unbroken) :
    Legible Unbroken (l.define s) := by
  unfold define
  split
  · exact h
  · next name label =>
    split
    · exact flat.label name label
    · exact h

theorem legible_addLines {texts : List (List Char)} (flat : ∀ text ∈ texts, '\n' ∉ text) (line : Nat)
    {l : Layout} (h : l.Unbroken) : Legible Unbroken (l.addLines line texts) := by
  induction texts generalizing line l with
  | nil => exact h
  | cons text texts ih =>
    rw [List.forall_mem_cons] at flat
    have added : Legible Unbroken (l.addLine line (String.ofList text)) := by
      apply (Statement.legible_parse line (by rw [String.toList_ofList]; exact flat.1)).bind
      intro s said
      exact (legible_define h said).bind fun next defined => defined.place said
    exact added.bind fun next good => ih flat.2 (line + 1) good

theorem legible_ofSource (source : String) : Legible Unbroken (ofSource source) :=
  legible_addLines (fun _ => Text.not_newline_of_mem_lines) 1 nofun

theorem legible_instructions {l : Layout} (h : l.Unbroken) :
    Legible (fun _ => True) l.instructions := by
  rw [Unbroken] at h
  rw [instructions]
  generalize l.placed.toList = placed at h
  induction placed with
  | nil => trivial
  | cons p ps ih =>
    rw [List.forall_mem_cons] at h
    rw [List.mapM_cons]
    apply h.1.legible.bind
    intro i _
    exact (ih h.2).bind fun _ _ => trivial

end Layout

namespace Assembly

/-- A source is refused in words on one line, whatever is in it. -/
theorem legible_ofSource (source : String) : Legible (fun _ => True) (ofSource source) := by
  apply (Layout.legible_ofSource source).bind
  intro l laid
  exact (Layout.legible_instructions laid).bind fun _ _ => trivial

/-- So is an assembly that the memory cannot hold. -/
theorem legible_image (a : Assembly) : Legible (fun _ => True) a.image := by
  unfold Assembly.image Image.checked
  split
  · trivial
  · next cause large =>
    split at large
    · cases large
    · cases large
      show OneLine ("Program too large: " ++ Nat.repr _ ++ " bytes (memory holds "
        ++ Nat.repr capacity ++ ")").toList
      simp only [Text.oneLine_add, Text.oneLine_repr, and_true]
      decide

end Assembly

end Source

end ByteMachine
