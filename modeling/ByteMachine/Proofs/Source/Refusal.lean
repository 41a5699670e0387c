import ByteMachine.Proofs.Source.Layout
import ByteMachine.Proofs.Source.Operands

/-
  Why a source is refused. The lines are laid out first, so what a line says and the
  labels it defines come before all else; then the instructions are made, with all
  labels known; and the size is looked at last. `refused_iff` says that a source is
  refused in just these cases and in this order:

    1. A line does not have the form of a line, or defines a label that a line above it
       defines already. The first such line is reported.
    2. All lines are in order, and a command has operands that do not fit, given the
       addresses of all labels. The first such line is reported.
    3. All commands stand for instructions, and these have more bytes than the memory.
-/

namespace ByteMachine.Source

/-! ## Errors and lines -/

/-- Whether a failure is reported for the line. -/
def PointsAt {α : Type} (line : Nat) (x : Except SourceError α) : Prop :=
  ∀ e, x = .error e → e.line? = some line

namespace PointsAt
variable {α β : Type} {line : Nat}

theorem ok (a : α) : PointsAt line (.ok a) := nofun

theorem error {e : SourceError} (h : e.line? = some line) :
    PointsAt line (.error e : Except SourceError α) := by
  intro d same
  cases same
  exact h

theorem bind {x : Except SourceError α} {f : α → Except SourceError β} (first : PointsAt line x)
    (rest : ∀ a, PointsAt line (f a)) : PointsAt line (x >>= f) := by
  intro e h
  obtain h | ⟨a, -, h⟩ := bind_eq_error_iff.mp h
  · exact first e h
  · exact rest a e h

theorem ite {c : Prop} [Decidable c] {x y : Except SourceError α} (hx : PointsAt line x)
    (hy : PointsAt line y) : PointsAt line (if c then x else y) := by
  split
  · exact hx
  · exact hy

end PointsAt

namespace Statement

theorem pointsAt_parseOperand (line : Nat) (t : Token) : PointsAt line (parseOperand line t) := by
  unfold parseOperand
  split
  · split
    · exact .ok _
    · exact .error rfl
  · exact .ite (.ok _) (.error rfl)
  · exact .ite (.ok _) (.error rfl)
  · exact .ite (.ok _) (.error rfl)
  · exact .ok _
  · exact .error rfl

theorem pointsAt_parseFurther (line lastColumn : Nat) :
    ∀ ts : List Token, PointsAt line (parseFurther line lastColumn ts)
  | [] => .ok _
  | [_] => .ite (.error rfl) (.error rfl)
  | _ :: t :: rest =>
    .ite ((pointsAt_parseOperand line t).bind fun _ =>
      (pointsAt_parseFurther line lastColumn rest).bind fun _ => .ok _) (.error rfl)

theorem pointsAt_parseOperands (line lastColumn : Nat) :
    ∀ ts : List Token, PointsAt line (parseOperands line lastColumn ts)
  | [] => .ok _
  | t :: rest => (pointsAt_parseOperand line t).bind fun _ =>
      (pointsAt_parseFurther line lastColumn rest).bind fun _ => .ok _

theorem pointsAt_parseCommand (line lastColumn : Nat) (ts : List Token) :
    PointsAt line (parseCommand line lastColumn ts) := by
  cases ts with
  | nil => exact .ok _
  | cons t rest =>
    apply PointsAt.ite
    · cases Opcode.ofMnemonic? t.text with
      | none => exact .error rfl
      | some op => exact (pointsAt_parseOperands line lastColumn rest).bind fun _ => .ok _
    · exact .error rfl

/-- What is wrong with a line is reported for that line. -/
theorem pointsAt_parse (line : Nat) (text : String) : PointsAt line (parse line text) := by
  have tokens : PointsAt line (lineTokens line text) := by
    unfold lineTokens
    dsimp only
    split
    · exact .error rfl
    · exact .ok _
  exact tokens.bind fun _ => (pointsAt_parseCommand line _ _).bind fun _ => .ok _

theorem line_of_parse {line : Nat} {text : String} {s : Statement}
    (h : parse line text = .ok s) : s.line = line := by
  obtain ⟨ts, -, h⟩ := bind_eq_ok_iff.mp h
  obtain ⟨c, -, h⟩ := bind_eq_ok_iff.mp h
  cases h
  rfl

end Statement

/-! ## Faults of lines -/

section Lines
variable {texts : List (List Char)} {k : Nat}

/-- Whether line `k`, counted from 0, says the statement. -/
def Says (texts : List (List Char)) (k : Nat) (s : Statement) : Prop :=
  ∃ text, texts[k]? = some text ∧ Statement.parse (k + 1) (String.ofList text) = .ok s

/-- What is wrong with line `k`, counted from 0, before any instruction is made. A line that does
not have the form of a line defines no label, so it has no other fault. -/
inductive LineFault (texts : List (List Char)) (k : Nat) : SourceError → Prop
  | form {text : List Char} {e : SourceError} (line : texts[k]? = some text)
      (wrong : Statement.parse (k + 1) (String.ofList text) = .error e) : LineFault texts k e
  | again {j : Nat} {s t : Statement} {name : String} (said : Says texts k s)
      (label : s.label = some name) (above : j < k) (before : Says texts j t)
      (taken : t.label = some name) : LineFault texts k (.duplicateLabel (k + 1) name)

theorem Says.unique {s t : Statement} (h : Says texts k s) (h' : Says texts k t) : s = t := by
  obtain ⟨text, line, said⟩ := h
  obtain ⟨text', line', said'⟩ := h'
  rw [line] at line'
  cases line'
  rw [said] at said'
  cases said'
  rfl

theorem Says.not_form {s : Statement} {text : List Char} {e : SourceError} (h : Says texts k s)
    (line : texts[k]? = some text) :
    Statement.parse (k + 1) (String.ofList text) ≠ .error e := by
  obtain ⟨text', line', said⟩ := h
  rw [line] at line'
  cases line'
  rw [said]
  exact nofun

/-- A line has at most one fault. -/
theorem LineFault.unique {d e : SourceError} (h : LineFault texts k d) (h' : LineFault texts k e) :
    d = e := by
  cases h with
  | form line wrong =>
    cases h' with
    | form line' wrong' =>
      rw [line] at line'
      cases line'
      rw [wrong] at wrong'
      cases wrong'
      rfl
    | again said _ _ _ _ => exact absurd wrong (said.not_form line)
  | again said label _ _ _ =>
    cases h' with
    | form line wrong => exact absurd wrong (said.not_form line)
    | again said' label' _ _ _ =>
      cases said.unique said'
      rw [label] at label'
      cases label'
      rfl

theorem LineFault.line? {e : SourceError} (h : LineFault texts k e) : e.line? = some (k + 1) := by
  cases h with
  | form _ wrong => exact Statement.pointsAt_parse _ _ _ wrong
  | again _ _ _ _ _ => rfl

theorem LineFault.lt_length {e : SourceError} (h : LineFault texts k e) : k < texts.length := by
  have inside : ∀ {text : List Char}, texts[k]? = some text → k < texts.length :=
    fun line => (List.getElem?_eq_some_iff.mp line).1
  cases h with
  | form line _ => exact inside line
  | again said _ _ _ _ =>
    obtain ⟨_, line, _⟩ := said
    exact inside line

/-- The lines that are read are those that say the statements. -/
theorem Reads.says_iff {line : Nat} {ss : List Statement} (h : Reads line texts ss) {s : Statement} :
    ss[k]? = some s ↔ ∃ text, texts[k]? = some text ∧
      Statement.parse (line + k) (String.ofList text) = .ok s := by
  induction h generalizing k with
  | nil line => simp
  | @cons line text texts t ss first rest ih =>
    cases k with
    | zero => simp [first, eq_comm]
    | succ k =>
      have next := ih (k := k)
      rw [Nat.add_right_comm, Nat.add_assoc] at next
      simpa using next

theorem Reads.length_eq {line : Nat} {ss : List Statement} (h : Reads line texts ss) :
    ss.length = texts.length := by
  induction h with
  | nil => rfl
  | cons _ _ ih => rw [List.length_cons, List.length_cons, ih]

theorem Reads.unique {line : Nat} {ss ts : List Statement} (h : Reads line texts ss)
    (h' : Reads line texts ts) : ss = ts := by
  apply List.ext_getElem?
  intro k
  apply Option.ext
  intro s
  rw [h.says_iff, h'.says_iff]

/-- Lines behind lines that are read are read with the numbers they have there. -/
theorem Reads.append {line : Nat} {ss ts : List Statement} {more : List (List Char)}
    (h : Reads line texts ss) (behind : Reads (line + texts.length) more ts) :
    Reads line (texts ++ more) (ss ++ ts) := by
  induction h with
  | nil => exact behind
  | cons first _ ih =>
    refine .cons first (ih ?_)
    rwa [Nat.add_right_comm, Nat.add_assoc, ← List.length_cons]

/-- What is said on the first lines does not depend on the lines below. -/
theorem Reads.said_iff {before after : List (List Char)} {ss : List Statement}
    (h : Reads 1 before ss) (inside : k < before.length) {s : Statement} :
    Says (before ++ after) k s ↔ ss[k]? = some s := by
  rw [Says, List.getElem?_append_left inside, h.says_iff, Nat.add_comm]

/-- Lines that are read have no fault if no label is defined twice. -/
theorem not_lineFault_of_reads {before after : List (List Char)} {ss : List Statement}
    (reads : Reads 1 before ss) (once : (ss.filterMap Statement.label).Nodup)
    (inside : k < before.length) (e : SourceError) : ¬ LineFault (before ++ after) k e := by
  intro fault
  cases fault with
  | form line wrong =>
    have present : k < ss.length := by rw [reads.length_eq]; exact inside
    have said : Says (before ++ after) k ss[k] :=
      (reads.said_iff inside).mpr (List.getElem?_eq_getElem present)
    exact said.not_form line wrong
  | again said label above upper taken =>
    have here := (reads.said_iff inside).mp said
    have there := (reads.said_iff (Nat.lt_trans above inside)).mp upper
    exact absurd (eq_of_label_eq once there taken here label) (Nat.ne_of_lt above)

end Lines

/-! ## Laying out -/

namespace Layout

theorem extended_concat (l : Layout) (ss : List Statement) (s : Statement) :
    l.extended (ss ++ [s]) = (l.extended ss).extended [s] := by
  induction ss generalizing l with
  | nil => rw [List.nil_append, extended_nil]
  | cons t ss ih => rw [List.cons_append, extended_cons, ih, ← extended_cons]

/-- A label that is in the table is defined on one of the lines. -/
theorem exists_label_of_mem {ss : List Statement} {name : String}
    (h : name ∈ (empty.extended ss).labels.map Prod.fst) :
    ∃ j : Nat, ∃ t : Statement, ss[j]? = some t ∧ t.label = some name := by
  simp only [extended, empty, List.append_nil, List.map_reverse, List.mem_reverse,
    fst_labelTable, List.mem_filterMap] at h
  obtain ⟨t, mem, label⟩ := h
  obtain ⟨j, here⟩ := List.mem_iff_getElem?.mp mem
  exact ⟨j, t, here, label⟩

/-- The first line that cannot be added to those above it is the first one with a fault. -/
theorem exists_fault_of_addLines {after : List (List Char)} :
    ∀ {before : List (List Char)} {ss : List Statement} {e : SourceError}, Reads 1 before ss →
      (empty.extended ss).Distinct →
      (empty.extended ss).addLines (1 + before.length) after = .error e →
      ∃ k, FirstAt (LineFault (before ++ after)) k e := by
  induction after with
  | nil =>
    intro before ss e _ _ h
    cases h
  | cons text after ih =>
    intro before ss e reads distinct h
    have once := distinct_iff.mp distinct
    have here : (before ++ text :: after)[before.length]? = some text := by simp
    have first : LineFault (before ++ text :: after) before.length e →
        ∃ k, FirstAt (LineFault (before ++ text :: after)) k e := fun fault =>
      ⟨before.length, fault, fun _ less => not_lineFault_of_reads reads once less⟩
    obtain h | ⟨next, added, h⟩ := bind_eq_error_iff.mp h
    · apply first
      obtain h | ⟨s, said, h⟩ := bind_eq_error_iff.mp h
      · rw [Nat.add_comm] at h
        exact .form here h
      · rw [define_place] at h
        split at h
        · cases h
        · next name label =>
          split at h
          · next old =>
            cases h
            obtain ⟨j, t, there, taken⟩ := exists_label_of_mem old
            have above : j < before.length := by
              rw [← reads.length_eq]
              exact (List.getElem?_eq_some_iff.mp there).1
            rw [Nat.add_comm] at said
            rw [Statement.line_of_parse said]
            exact .again ⟨text, here, said⟩ label above ((reads.said_iff above).mpr there) taken
          · cases h
    · obtain ⟨s, said, added⟩ := bind_eq_ok_iff.mp added
      obtain ⟨rfl, distinct'⟩ := extended_of_define_place distinct added
      rw [← extended_concat] at h distinct'
      have whole : before ++ text :: after = before ++ [text] ++ after := by simp
      rw [whole]
      apply ih (reads.append (.cons said (.nil _))) distinct'
      rwa [List.length_append, List.length_singleton, ← Nat.add_assoc]

/-- A source that is laid out has no line at fault. -/
theorem clean_of_ofSource {source : String} {l : Layout} (h : ofSource source = .ok l) (k : Nat)
    (e : SourceError) : ¬ LineFault (Text.lines source.toList) k e := by
  intro fault
  obtain ⟨ss, reads, rfl, distinct⟩ := exists_reads_of_addLines h distinct_empty
  have inside := fault.lt_length
  rw [← List.append_nil (Text.lines source.toList)] at fault
  exact not_lineFault_of_reads reads (distinct_iff.mp distinct) inside e fault

/-- A source that is not laid out is refused for the first line at fault. -/
theorem exists_fault_of_ofSource {source : String} {e : SourceError} (h : ofSource source = .error e) :
    ∃ k, FirstAt (LineFault (Text.lines source.toList)) k e := by
  refine exists_fault_of_addLines (.nil 1) ?_ ?_
  · rw [extended_nil]
    exact distinct_empty
  · rwa [extended_nil]

end Layout

/-! ## Faults of commands -/

/-- What is wrong with the operands on line `k`, counted from 0, given the addresses of labels. -/
def CommandFault (address? : String → Option Nat) (ss : List Statement) (k : Nat) (e : SourceError) :
    Prop :=
  ∃ s c, ss[k]? = some s ∧ s.command = some c ∧ Unfit s.line address? c e

section Commands
variable {address? : String → Option Nat} {ss : List Statement} {k : Nat}

theorem Unfit.unique {line : Nat} {c : Command} {d e : SourceError} (h : Unfit line address? c d)
    (h' : Unfit line address? c e) : d = e := by
  have first := instruction_eq_error_iff.mpr h
  rw [instruction_eq_error_iff.mpr h'] at first
  cases first
  rfl

theorem CommandFault.unique {d e : SourceError} (h : CommandFault address? ss k d)
    (h' : CommandFault address? ss k e) : d = e := by
  obtain ⟨s, c, line, command, unfit⟩ := h
  obtain ⟨s', c', line', command', unfit'⟩ := h'
  rw [line] at line'
  cases line'
  rw [command] at command'
  cases command'
  exact unfit.unique unfit'

theorem CommandFault.line? {texts : List (List Char)} (reads : Reads 1 texts ss) {e : SourceError}
    (h : CommandFault address? ss k e) : e.line? = some (k + 1) := by
  obtain ⟨s, c, line, -, unfit⟩ := h
  obtain ⟨text, -, said⟩ := reads.says_iff.mp line
  rw [unfit.line?, Statement.line_of_parse said, Nat.add_comm]

/-- A line without a command has no fault of this kind. -/
theorem not_commandFault_zero {s : Statement} (command : s.command = none) (e : SourceError) :
    ¬ CommandFault address? (s :: ss) 0 e := by
  rintro ⟨t, c, line, present, -⟩
  cases line
  rw [command] at present
  cases present

/-- Making the instructions is refused for the first command whose operands do not fit. -/
theorem exists_fault_of_mapM {e : SourceError}
    (h : (ss.filterMap Statement.placed?).mapM
      (fun p => p.command.instruction p.line address?) = .error e) :
    ∃ k, FirstAt (CommandFault address? ss) k e := by
  induction ss with
  | nil => cases h
  | cons s ss ih =>
    rw [Layout.placed_cons] at h
    cases command : s.command with
    | none =>
      simp only [Statement.placed?, command, Option.map_none, Option.toList_none,
        List.nil_append] at h
      obtain ⟨k, first⟩ := ih h
      exact ⟨k + 1, .succ (not_commandFault_zero command) first⟩
    | some c =>
      simp only [Statement.placed?, command, Option.map_some, Option.toList_some,
        List.singleton_append, List.mapM_cons] at h
      obtain h | ⟨i, made, h⟩ := bind_eq_error_iff.mp h
      · exact ⟨0, .zero ⟨s, c, rfl, command, instruction_eq_error_iff.mp h⟩⟩
      · obtain h | ⟨is, -, h⟩ := bind_eq_error_iff.mp h
        · obtain ⟨k, first⟩ := ih h
          refine ⟨k + 1, .succ ?_ first⟩
          rintro d ⟨t, c', line, present, unfit⟩
          cases line
          rw [command] at present
          cases present
          rw [instruction_eq_error_iff.mpr unfit] at made
          cases made
        · cases h

/-- If a line has the instruction that its command stands for, its operands are not at fault. -/
theorem not_commandFault_of_line {l : Line} (built : l.Built address?)
    (here : ss[k]? = some l.statement) (e : SourceError) : ¬ CommandFault address? ss k e := by
  rintro ⟨s, c, line, command, unfit⟩
  rw [here] at line
  cases line
  rw [Line.Built, command] at built
  obtain ⟨i, -, made⟩ := built
  rw [instruction_eq_error_iff.mpr unfit] at made
  cases made

/-- If all lines have the instructions that their commands stand for, no operands are at fault. -/
theorem not_commandFault_of_built {ls : List Line} (built : ∀ l ∈ ls, l.Built address?)
    (e : SourceError) : ¬ CommandFault address? (ls.map Line.statement) k e := by
  rintro ⟨s, c, line, rest⟩
  have mapped := line
  rw [List.getElem?_map] at mapped
  obtain ⟨l, here, rfl⟩ := Option.map_eq_some_iff.mp mapped
  exact not_commandFault_of_line (built l (List.mem_of_getElem? here)) line e ⟨_, c, line, rest⟩

/-- Only the labels that a command uses matter to it. -/
theorem instruction_congr {c : Command} {line : Nat} {address?' : String → Option Nat}
    (agree : ∀ name, .label name ∈ c.operands → address? name = address?' name) :
    c.instruction line address? = c.instruction line address?' := by
  obtain ⟨op, xs⟩ := c
  unfold Command.instruction
  dsimp only at agree ⊢
  split
  case h_7 x y =>
    have second : y.toByte line address? = y.toByte line address?' := by
      cases y with
      | label name => simp only [Operand.toByte, agree name (by simp)]
      | register | immediate => rfl
    rw [second]
  all_goals rfl

theorem commandFault_congr {address?' : String → Option Nat} {e : SourceError}
    (agree : ∀ s ∈ ss, ∀ c, s.command = some c → ∀ name, .label name ∈ c.operands →
      address? name = address?' name) :
    CommandFault address? ss k e ↔ CommandFault address?' ss k e := by
  unfold CommandFault
  refine exists₂_congr fun s c => and_congr_right fun line => and_congr_right fun command => ?_
  rw [← instruction_eq_error_iff, ← instruction_eq_error_iff,
    instruction_congr (agree s (List.mem_of_getElem? line) c command)]

end Commands

/-! ## Assembling -/

/-- Why a source is refused. -/
inductive Refusal (source : String) : SourceError → Prop
  /-- For the first line at fault, read from the top. -/
  | line {k : Nat} {e : SourceError} (first : FirstAt (LineFault (Text.lines source.toList)) k e) :
      Refusal source e
  /-- For the first line whose operands do not fit, when no line is at fault. -/
  | command {ss : List Statement} {k : Nat} {e : SourceError}
      (clean : ∀ j d, ¬ LineFault (Text.lines source.toList) j d)
      (reads : Reads 1 (Text.lines source.toList) ss)
      (first : FirstAt (CommandFault (addressIn ss) ss) k e) : Refusal source e
  /-- For its size, when all commands stand for instructions. -/
  | size {ss : List Statement} (clean : ∀ j d, ¬ LineFault (Text.lines source.toList) j d)
      (reads : Reads 1 (Text.lines source.toList) ss)
      (fit : ∀ j d, ¬ CommandFault (addressIn ss) ss j d) (large : capacity < totalWidth ss) :
      Refusal source (.violation (.imageTooLarge (totalWidth ss)))

section Assembling
variable {source : String} {e : SourceError}

/-- An assembly does not fit the memory if the bytes set aside do not. -/
theorem image_eq_error_iff {address? : String → Option Nat} {ls : List Line} {n : Nat}
    (built : ∀ l ∈ ls, l.Built address?) :
    Assembly.image ⟨ls.filterMap Line.instruction?, n⟩ = .error e ↔
      capacity < totalWidth (ls.map Line.statement) ∧
        e = .violation (.imageTooLarge (totalWidth (ls.map Line.statement))) := by
  simp only [Assembly.image, Assembly.code, code_of_lines, Image.checked, length_code_of_built built]
  by_cases fits : totalWidth (ls.map Line.statement) ≤ capacity
  · simp [fits, Nat.not_lt.mpr fits]
  · simp [fits, Nat.lt_of_not_le fits, eq_comm]

/-- With all lines laid out, the commands decide, and then the size. -/
theorem assemble_eq_error_iff_of_laid {ss : List Statement}
    (laid : Layout.ofSource source = .ok (Layout.empty.extended ss))
    (once : (ss.filterMap Statement.label).Nodup) :
    assemble source = .error e ↔ (∃ k, FirstAt (CommandFault (addressIn ss) ss) k e) ∨
      (∀ j d, ¬ CommandFault (addressIn ss) ss j d) ∧ capacity < totalWidth ss ∧
        e = .violation (.imageTooLarge (totalWidth ss)) := by
  have made : Layout.instructions (Layout.empty.extended ss) =
      (ss.filterMap Statement.placed?).mapM
        fun p => p.command.instruction p.line (addressIn ss) := by
    rw [Layout.instructions, Layout.placed_extended_empty, Layout.address?_extended once]
  rw [assemble, Assembly.ofSource, laid, ok_bind, made]
  generalize addressIn ss = address?
  cases instructions : (ss.filterMap Statement.placed?).mapM
      fun p => p.command.instruction p.line address? with
  | error d =>
    obtain ⟨k, first⟩ := exists_fault_of_mapM instructions
    constructor
    · intro h
      cases h
      exact .inl ⟨k, first⟩
    · rintro (⟨j, other⟩ | ⟨fit, -⟩)
      · cases first.unique (fun _ _ _ h => h.unique) other
        rfl
      · exact absurd first.here (fit k d)
  | ok is =>
    obtain ⟨ls, rfl, rfl, built⟩ := exists_lines instructions
    have fit : ∀ j d, ¬ CommandFault address? (ls.map Line.statement) j d :=
      fun j d => not_commandFault_of_built built d
    rw [ok_bind, pure_eq_ok, ok_bind, image_eq_error_iff built]
    constructor
    · exact fun h => .inr ⟨fit, h⟩
    · rintro (⟨k, first⟩ | ⟨-, h⟩)
      · exact absurd first.here (fit k e)
      · exact h

end Assembling

/-- What the errors of a source say about it. -/
structure Diagnosed (source : String) : Prop where
  /-- A source is refused just for the reasons there are. -/
  refused : ∀ e, assemble source = .error e ↔ Refusal source e
  /-- The fault of a line is reported with the number of that line, from 1. -/
  line : ∀ k e, LineFault (Text.lines source.toList) k e → e.line? = some (k + 1)
  /-- So are operands that do not fit. -/
  command : ∀ ss, Reads 1 (Text.lines source.toList) ss →
    ∀ k e, CommandFault (addressIn ss) ss k e → e.line? = some (k + 1)
  /-- Where a label stands that no command uses makes no difference. -/
  unused : ∀ ss address?, (∀ s ∈ ss, ∀ c, s.command = some c → ∀ name,
      .label name ∈ c.operands → address? name = addressIn ss name) →
    ∀ k e, CommandFault address? ss k e ↔ CommandFault (addressIn ss) ss k e

/-- A source is refused for the first fault of a line, else for the first command with operands that
do not fit, else for its size, and for nothing else. -/
theorem diagnosed (source : String) : Diagnosed source := by
  refine ⟨?_, fun k e => LineFault.line?, fun ss reads k e => CommandFault.line? reads,
    fun ss address? agree k e => commandFault_congr agree⟩
  intro e
  cases laid : Layout.ofSource source with
  | error d =>
    obtain ⟨k, first⟩ := Layout.exists_fault_of_ofSource laid
    have refused : assemble source = .error d := by
      rw [assemble, Assembly.ofSource, laid]
      rfl
    rw [refused]
    constructor
    · intro h
      cases h
      exact .line first
    · intro h
      cases h with
      | line other =>
        cases first.unique (fun _ _ _ h => h.unique) other
        rfl
      | command clean => exact absurd first.here (clean k d)
      | size clean => exact absurd first.here (clean k d)
  | ok l =>
    have clean := Layout.clean_of_ofSource laid
    obtain ⟨ss, reads, rfl, distinct⟩ := Layout.exists_reads_of_addLines laid Layout.distinct_empty
    rw [assemble_eq_error_iff_of_laid laid (Layout.distinct_iff.mp distinct)]
    constructor
    · rintro (⟨k, first⟩ | ⟨fit, large, rfl⟩)
      · exact .command clean reads first
      · exact .size clean reads fit large
    · intro h
      cases h with
      | line first => exact absurd first.here (clean _ _)
      | command _ reads' first =>
        cases reads.unique reads'
        exact .inl ⟨_, first⟩
      | size _ reads' fit large =>
        cases reads.unique reads'
        exact .inr ⟨fit, large, rfl⟩

/-- The second line would define the label again, but it does not have the form of a line. The
operands on the line before would not fit either. -/
example : assemble "a: LDI R0, b\na: STOP" = .error (.unknownInstruction 2 "STOP") := by cbv

end ByteMachine.Source
