import Mathlib
import ByteMachine.Source.Assembly
import ByteMachine.Proofs.Source.Operands

/-
  Where an assembled source has put everything. The lines are laid out by the
  sizes that the opcodes announce, before any instruction is made; the bytes
  are those of the instructions, made afterwards. What is proved:

    1. `addLines_of_reads` and `exists_reads_of_addLines` say what laying out
       comes to: the size, the labels and the commands are those of the
       statements that the lines say, and no label is defined twice.
    2. `exists_lines` says what making the instructions comes to: one
       instruction for each line with a command, in the order of the lines.
    3. `labels_at_offsets`: the address of a label is the offset, in the bytes,
       at which the line that defines it starts.
-/

namespace ByteMachine.Source

/-! ## What the lines say -/

/-- The texts are lines that say the statements, the first line being number `line`. -/
inductive Reads : Nat → List (List Char) → List Statement → Prop where
  | nil (line : Nat) : Reads line [] []
  | cons {line : Nat} {text : List Char} {texts : List (List Char)} {s : Statement}
      {ss : List Statement} (first : Statement.parse line (String.ofList text) = .ok s)
      (rest : Reads (line + 1) texts ss) : Reads line (text :: texts) (s :: ss)

namespace Statement

/-- The number of bytes that the layout sets aside for the statement. -/
def width (s : Statement) : Nat :=
  match s.command with
  | none => 0
  | some c => c.opcode.size

/-- The command of the statement with its line. -/
def placed? (s : Statement) : Option Placed := s.command.map (Placed.mk s.line)

/-- The label of the statement, standing for the address. -/
def labels (s : Statement) (address : Nat) : List (String × Nat) :=
  match s.label with
  | none => []
  | some name => [(name, address)]

end Statement

/-- The bytes set aside for all the statements. -/
def totalWidth (ss : List Statement) : Nat := (ss.map Statement.width).sum

/-- The labels of the statements, of which the first is laid out at `start`. -/
def labelTable (start : Nat) : List Statement → List (String × Nat)
  | [] => []
  | s :: ss => s.labels start ++ labelTable (start + s.width) ss

@[simp] theorem totalWidth_nil : totalWidth [] = 0 := rfl

@[simp] theorem totalWidth_cons (s : Statement) (ss : List Statement) :
    totalWidth (s :: ss) = s.width + totalWidth ss := by simp [totalWidth]

/-- A label stands for the bytes set aside for the lines above the one that defines it. -/
theorem mem_labelTable {start : Nat} {ss : List Statement} {name : String} {address : Nat} :
    (name, address) ∈ labelTable start ss ↔
      ∃ j s, ss[j]? = some s ∧ s.label = some name ∧ address = start + totalWidth (ss.take j) := by
  induction ss generalizing start with
  | nil => simp [labelTable]
  | cons s ss ih =>
    rw [labelTable, List.mem_append, ih]
    constructor
    · rintro (h | ⟨j, t, hj, hl, ha⟩)
      · refine ⟨0, s, rfl, ?_⟩
        cases hs : s.label with
        | none => simp [Statement.labels, hs] at h
        | some n => simpa [Statement.labels, hs, eq_comm] using h
      · exact ⟨j + 1, t, by simpa using hj, hl, by simp [ha, Nat.add_assoc]⟩
    · rintro ⟨j, t, hj, hl, ha⟩
      cases j with
      | zero =>
        simp only [List.getElem?_cons_zero, Option.some.injEq] at hj
        subst hj
        left
        simpa [Statement.labels, hl] using ha
      | succ j =>
        exact .inr ⟨j, t, by simpa using hj, hl, by simpa [Nat.add_assoc] using ha⟩

/-! ## Laying out -/

namespace Layout

/-- The layout with the statements at its end. -/
def extended (l : Layout) (ss : List Statement) : Layout where
  size := l.size + totalWidth ss
  labels := (labelTable l.size ss).reverse ++ l.labels
  placed := l.placed ++ (ss.filterMap Statement.placed?).toArray

theorem extended_nil (l : Layout) : l.extended [] = l := by
  simp [extended, labelTable]

theorem placed_cons (s : Statement) (ss : List Statement) :
    (s :: ss).filterMap Statement.placed? = s.placed?.toList ++ ss.filterMap Statement.placed? := by
  rw [List.filterMap_cons]
  cases s.placed? <;> rfl

theorem extended_cons (l : Layout) (s : Statement) (ss : List Statement) :
    l.extended (s :: ss) = (l.extended [s]).extended ss := by
  have size : l.size + totalWidth (s :: ss) = l.size + totalWidth [s] + totalWidth ss := by
    simp [Nat.add_assoc]
  have labels : (labelTable l.size (s :: ss)).reverse ++ l.labels =
      (labelTable (l.size + totalWidth [s]) ss).reverse
        ++ ((labelTable l.size [s]).reverse ++ l.labels) := by
    simp [labelTable]
  have placed : l.placed ++ ((s :: ss).filterMap Statement.placed?).toArray =
      l.placed ++ ([s].filterMap Statement.placed?).toArray
        ++ (ss.filterMap Statement.placed?).toArray := by
    apply Array.toList_inj.mp
    simp [placed_cons s ss, placed_cons s []]
  unfold extended
  rw [size, labels, placed]

/-- The labels of the layout, none of them twice. -/
def Distinct (l : Layout) : Prop := (l.labels.map Prod.fst).Nodup

theorem isSome_address?_iff {l : Layout} {name : String} :
    (l.address? name).isSome = true ↔ name ∈ l.labels.map Prod.fst := by
  rw [address?, List.lookup_isSome_iff, List.mem_map]
  constructor
  · rintro ⟨p, hp, h⟩
    exact ⟨p, hp, (beq_iff_eq.mp h).symm⟩
  · rintro ⟨p, hp, h⟩
    exact ⟨p, hp, beq_iff_eq.mpr h.symm⟩

/-- A layout has no label twice if a longer one has none twice. -/
theorem Distinct.of_extended {l : Layout} {ss : List Statement} (h : (l.extended ss).Distinct) :
    l.Distinct := by
  simp only [Distinct, extended, List.map_append] at h
  exact (List.nodup_append.mp h).2.1

/-- A line is added at the end, if its label is new. -/
theorem define_place (l : Layout) (s : Statement) :
    (do return (← l.define s).place s : Except SourceError Layout) =
      match s.label with
      | none => .ok (l.extended [s])
      | some name =>
        if name ∈ l.labels.map Prod.fst then .error (.duplicateLabel s.line name)
        else .ok (l.extended [s]) := by
  have place : ∀ labels, place ⟨l.size, labels, l.placed⟩ s =
      ⟨l.size + s.width, labels, l.placed ++ ([s].filterMap Statement.placed?).toArray⟩ := by
    intro labels
    cases hc : s.command <;> simp [Layout.place, Statement.width, Statement.placed?, hc]
  cases hl : s.label with
  | none =>
    have := place l.labels
    simpa [define, hl, extended, labelTable, Statement.labels] using this
  | some name =>
    simp only [define, hl, isSome_address?_iff]
    split
    · rfl
    · simp [place, extended, labelTable, Statement.labels, hl]

/-- A line that can be added is at the end then, and its label was new. -/
theorem extended_of_define_place {l next : Layout} {s : Statement} (distinct : l.Distinct)
    (h : (do return (← l.define s).place s : Except SourceError Layout) = .ok next) :
    next = l.extended [s] ∧ next.Distinct := by
  rw [define_place] at h
  split at h
  · next hl =>
    cases h
    exact ⟨rfl, by simpa [Distinct, extended, labelTable, Statement.labels, hl] using distinct⟩
  · next name hl =>
    split at h
    · cases h
    · next new =>
      cases h
      refine ⟨rfl, ?_⟩
      simpa [Distinct, extended, labelTable, Statement.labels, hl, new] using distinct

theorem addLines_append (l : Layout) (line : Nat) (before after : List (List Char)) :
    l.addLines line (before ++ after) =
      (do (← l.addLines line before).addLines (line + before.length) after) := by
  induction before generalizing l line with
  | nil => rfl
  | cons text before ih =>
    rw [List.cons_append, addLines, addLines]
    cases l.addLine line (String.ofList text) with
    | error e => rfl
    | ok next =>
      rw [ok_bind, ok_bind, ih, List.length_cons, Nat.add_assoc, Nat.add_comm 1]

/-- Laying out succeeds on lines that say something, unless a label is defined twice. -/
theorem addLines_of_reads {l : Layout} {line : Nat} {texts : List (List Char)}
    {ss : List Statement} (h : Reads line texts ss) (distinct : (l.extended ss).Distinct) :
    l.addLines line texts = .ok (l.extended ss) := by
  induction h generalizing l with
  | nil => rw [extended_nil]; rfl
  | @cons line text texts s ss first _ ih =>
    rw [extended_cons] at distinct ⊢
    have added : l.addLine line (String.ofList text) = .ok (l.extended [s]) := by
      rw [addLine, first, ok_bind, define_place]
      cases hl : s.label with
      | none => rfl
      | some name =>
        refine if_neg fun old => ?_
        -- Were the name old, it would be in the final table twice.
        have twice := distinct.of_extended
        simp only [Distinct, extended, labelTable, Statement.labels, hl, List.append_nil,
          List.reverse_singleton, List.singleton_append, List.map_cons, List.nodup_cons] at twice
        exact twice.1 old
    rw [addLines, added, ok_bind]
    exact ih distinct

/-- Lines that are laid out say something, and define no label twice. -/
theorem exists_reads_of_addLines {l l' : Layout} {line : Nat} {texts : List (List Char)}
    (h : l.addLines line texts = .ok l') (distinct : l.Distinct) :
    ∃ ss, Reads line texts ss ∧ l' = l.extended ss ∧ l'.Distinct := by
  induction texts generalizing l line with
  | nil =>
    cases h
    exact ⟨[], .nil line, (extended_nil _).symm, distinct⟩
  | cons text texts ih =>
    obtain ⟨next, hn, h⟩ := bind_eq_ok_iff.mp h
    obtain ⟨s, hs, hn⟩ := bind_eq_ok_iff.mp hn
    obtain ⟨rfl, distinct'⟩ := extended_of_define_place distinct hn
    obtain ⟨ss, reads, rfl, distinct''⟩ := ih h distinct'
    exact ⟨s :: ss, .cons hs reads, (extended_cons l s ss).symm, distinct''⟩

theorem distinct_empty : empty.Distinct := List.nodup_nil

theorem placed_extended_empty (ss : List Statement) :
    (empty.extended ss).placed.toList = ss.filterMap Statement.placed? := by
  simp [extended, empty]

/-- In a table that has no label twice, looking up finds what is there. -/
theorem Distinct.address?_eq_some_iff {l : Layout} (h : l.Distinct) {name : String} {address : Nat} :
    l.address? name = some address ↔ (name, address) ∈ l.labels := by
  unfold Distinct at h
  unfold address?
  generalize l.labels = table at h ⊢
  induction table with
  | nil => simp
  | cons p ps ih =>
    obtain ⟨name', address'⟩ := p
    rw [List.map_cons, List.nodup_cons] at h
    rw [List.lookup_cons, List.mem_cons, Prod.mk.injEq]
    by_cases same : name = name'
    · subst same
      have absent : (name, address) ∉ ps := fun m => h.1 (List.mem_map.mpr ⟨_, m, rfl⟩)
      simp [absent, eq_comm]
    · rw [beq_eq_false_iff_ne.mpr same, ih h.2]
      simp [same]

end Layout

/-- The labels that statements define, in the order of their lines. -/
theorem fst_labelTable (start : Nat) (ss : List Statement) :
    (labelTable start ss).map Prod.fst = ss.filterMap Statement.label := by
  induction ss generalizing start with
  | nil => rfl
  | cons s ss ih =>
    rw [labelTable, List.map_append, ih, List.filterMap_cons]
    cases hs : s.label <;> simp [Statement.labels, hs]

theorem Layout.distinct_iff {ss : List Statement} :
    (Layout.empty.extended ss).Distinct ↔ (ss.filterMap Statement.label).Nodup := by
  rw [← fst_labelTable 0, ← (List.reverse_perm _).nodup_iff]
  simp [Distinct, extended, empty]

/-- If no label is defined twice, only one statement defines it. -/
theorem eq_of_label_eq {ss : List Statement} (distinct : (ss.filterMap Statement.label).Nodup)
    {name : String} {j j' : Nat} {s s' : Statement} (hj : ss[j]? = some s)
    (hl : s.label = some name) (hj' : ss[j']? = some s') (hl' : s'.label = some name) : j = j' := by
  induction ss generalizing j j' with
  | nil => simp at hj
  | cons t ss ih =>
    have rest : (ss.filterMap Statement.label).Nodup :=
      distinct.sublist ((List.sublist_cons_self t ss).filterMap _)
    -- A later statement cannot define the label of the first one.
    have apart : t.label = some name → ∀ {k : Nat} {s : Statement}, ss[k]? = some s →
        s.label ≠ some name := by
      intro ht k s hk hs
      simp only [List.filterMap_cons, ht, List.nodup_cons] at distinct
      exact distinct.1 (List.mem_filterMap.mpr ⟨s, List.mem_of_getElem? hk, hs⟩)
    cases j with
    | zero =>
      cases j' with
      | zero => rfl
      | succ j' =>
        cases hj
        exact absurd hl' (apart hl (by simpa using hj'))
    | succ j =>
      cases j' with
      | zero =>
        cases hj'
        exact absurd hl (apart hl' (by simpa using hj))
      | succ j' => exact congrArg Nat.succ (ih rest (by simpa using hj) (by simpa using hj'))

/-- Where only one element can be found, the index that is found is the one that has it. -/
theorem findIdx?_eq_some_iff_of_once {α : Type} {p : α → Bool} {l : List α}
    (once : ∀ (i j : Nat) a b, l[i]? = some a → p a = true → l[j]? = some b → p b = true → i = j)
    {j : Nat} : l.findIdx? p = some j ↔ ∃ a, l[j]? = some a ∧ p a = true := by
  rw [List.findIdx?_eq_some_iff_getElem]
  constructor
  · rintro ⟨inside, found, -⟩
    exact ⟨l[j], List.getElem?_eq_getElem inside, found⟩
  · rintro ⟨a, here, found⟩
    obtain ⟨inside, rfl⟩ := List.getElem?_eq_some_iff.mp here
    refine ⟨inside, found, fun i above same => ?_⟩
    have there : l[i]? = some l[i] := List.getElem?_eq_getElem (Nat.lt_trans above inside)
    exact absurd (once i j _ _ there same here found) (Nat.ne_of_lt above)

/-- The address of a label: the bytes of all commands above the line that defines it. -/
def addressIn (ss : List Statement) (name : String) : Option Nat :=
  (ss.findIdx? fun s => s.label == some name).map fun j => totalWidth (ss.take j)

theorem addressIn_eq_some_iff {ss : List Statement} (distinct : (ss.filterMap Statement.label).Nodup)
    {name : String} {address : Nat} : addressIn ss name = some address ↔
      ∃ j s, ss[j]? = some s ∧ s.label = some name ∧ address = totalWidth (ss.take j) := by
  have found : ∀ j, (ss.findIdx? fun s => s.label == some name) = some j ↔
      ∃ s, ss[j]? = some s ∧ (s.label == some name) = true := by
    intro j
    apply findIdx?_eq_some_iff_of_once
    intro i j s t here label there same
    exact eq_of_label_eq distinct here (beq_iff_eq.mp label) there (beq_iff_eq.mp same)
  simp only [addressIn, Option.map_eq_some_iff, found, beq_iff_eq]
  constructor
  · rintro ⟨j, ⟨s, here, label⟩, rfl⟩
    exact ⟨j, s, here, label, rfl⟩
  · rintro ⟨j, s, here, label, rfl⟩
    exact ⟨j, ⟨s, here, label⟩, rfl⟩

/-- The complete table of the layout has these addresses. -/
theorem Layout.address?_extended {ss : List Statement}
    (distinct : (ss.filterMap Statement.label).Nodup) :
    (Layout.empty.extended ss).address? = addressIn ss := by
  funext name
  apply Option.ext
  intro address
  rw [(Layout.distinct_iff.mpr distinct).address?_eq_some_iff, addressIn_eq_some_iff distinct]
  simp only [Layout.extended, Layout.empty, List.append_nil, List.mem_reverse, mem_labelTable,
    Nat.zero_add]

/-! ## Making the instructions -/

/-- An instruction has the opcode of the command it stands for. -/
theorem Command.opcode_of_instruction {c : Command} {line : Nat} {address? : String → Option Nat}
    {i : Instruction} (h : c.instruction line address? = .ok i) : i.opcode = c.opcode :=
  (instruction_eq_ok_iff.mp h).1

/-- A label loaded by an instruction has an address, and the address is a byte. -/
theorem Command.load_label {c : Command} {line : Nat} {address? : String → Option Nat}
    {i : Instruction} {name : String} (h : c.instruction line address? = .ok i)
    (opcode : c.opcode = .ldi) (operand : c.operands[1]? = some (.label name)) :
    ∃ rd address, address? name = some address ∧ address < 256 ∧
      i = .ldi rd (UInt8.ofNat address) := by
  obtain ⟨op, xs⟩ := c
  subst opcode
  obtain ⟨rd, _, address, same, found, small, made⟩ | ⟨free, -⟩ := Command.instruction_cases h
  · cases same
    cases operand
    exact ⟨rd, address, found, small, made⟩
  · exact absurd (List.mem_of_getElem? operand) (free name)

/-- A line of an assembled source: what it says, and the instruction it became. -/
structure Line where
  statement : Statement
  instruction? : Option Instruction

namespace Line

/-- The bytes of the line. -/
def code (l : Line) : List UInt8 :=
  match l.instruction? with
  | none => []
  | some i => i.encode

/-- Whether the line has the instruction that its command stands for, and none without a command. -/
def Built (address? : String → Option Nat) (l : Line) : Prop :=
  match l.statement.command with
  | none => l.instruction? = none
  | some c => ∃ i, l.instruction? = some i ∧ c.instruction l.statement.line address? = .ok i

/-- The bytes of a line are as many as were set aside for it. -/
theorem Built.length_code {address? : String → Option Nat} {l : Line} (h : l.Built address?) :
    l.code.length = l.statement.width := by
  unfold Built at h
  unfold code Statement.width
  split at h
  · next hc => rw [h]; rfl
  · next c hc =>
    obtain ⟨i, hi, made⟩ := h
    rw [hi]
    dsimp only
    rw [Instruction.length_encode, Instruction.size, Command.opcode_of_instruction made]

end Line

/-- The offset, in the bytes of the lines, of the first byte at or after line `k` from 0. -/
def offset (ls : List Line) (k : Nat) : Nat := ((ls.take k).flatMap Line.code).length

/-- Whether line `k`, counted from 0, defines the label. -/
def Defines (ls : List Line) (k : Nat) (name : String) : Prop :=
  ∃ l, ls[k]? = some l ∧ l.statement.label = some name

/-- The offset at which the line that defines a label starts. -/
def offset? (ls : List Line) (name : String) : Option Nat :=
  (ls.findIdx? fun l => l.statement.label == some name).map (offset ls)

/-- Lines have as many bytes as were set aside for them. -/
theorem length_code_of_built {address? : String → Option Nat} {ls : List Line}
    (built : ∀ l ∈ ls, l.Built address?) :
    (ls.flatMap Line.code).length = totalWidth (ls.map Line.statement) := by
  induction ls with
  | nil => rfl
  | cons l ls ih =>
    rw [List.flatMap_cons, List.length_append, List.map_cons, totalWidth_cons,
      (built l (by simp)).length_code, ih fun x hx => built x (by simp [hx])]

theorem offset_eq_totalWidth {address? : String → Option Nat} {ls : List Line}
    (built : ∀ l ∈ ls, l.Built address?) (k : Nat) :
    offset ls k = totalWidth ((ls.map Line.statement).take k) := by
  rw [offset, length_code_of_built fun l hl => built l (List.mem_of_mem_take hl), List.map_take]

/-- The bytes from the start of line `k` on are those of the lines from there on. -/
theorem drop_offset (ls : List Line) (k : Nat) :
    (ls.flatMap Line.code).drop (offset ls k) = (ls.drop k).flatMap Line.code := by
  have split : ls.flatMap Line.code =
      (ls.take k).flatMap Line.code ++ (ls.drop k).flatMap Line.code := by
    rw [← List.flatMap_append, List.take_append_drop]
  rw [offset, split, List.drop_left]

/-- Making the instructions succeeds only if each command stands for an instruction. -/
theorem exists_lines {address? : String → Option Nat} {ss : List Statement} {is : List Instruction}
    (h : (ss.filterMap Statement.placed?).mapM
      (fun p => p.command.instruction p.line address?) = .ok is) :
    ∃ ls : List Line, ls.map Line.statement = ss ∧ is = ls.filterMap Line.instruction? ∧
      ∀ l ∈ ls, l.Built address? := by
  induction ss generalizing is with
  | nil =>
    cases h
    exact ⟨[], rfl, rfl, by simp⟩
  | cons s ss ih =>
    rw [Layout.placed_cons] at h
    cases hc : s.command with
    | none =>
      simp only [Statement.placed?, hc, Option.map_none, Option.toList_none, List.nil_append] at h
      obtain ⟨ls, hs, hi, built⟩ := ih h
      refine ⟨⟨s, none⟩ :: ls, by simp [hs], by simpa using hi, ?_⟩
      intro l hl
      rcases List.mem_cons.mp hl with rfl | hl
      · simp [Line.Built, hc]
      · exact built l hl
    | some c =>
      simp only [Statement.placed?, hc, Option.map_some, Option.toList_some,
        List.singleton_append] at h
      obtain ⟨i, rest, made, others, rfl⟩ := mapM_cons_eq_ok_iff.mp h
      obtain ⟨ls, hs, rfl, built⟩ := ih others
      refine ⟨⟨s, some i⟩ :: ls, by simp [hs], by simp, ?_⟩
      intro l hl
      rcases List.mem_cons.mp hl with rfl | hl
      · simpa [Line.Built, hc] using made
      · exact built l hl

theorem code_of_lines (ls : List Line) :
    (ls.filterMap Line.instruction?).flatMap Instruction.encode = ls.flatMap Line.code := by
  induction ls with
  | nil => rfl
  | cons l ls ih =>
    rw [List.filterMap_cons, List.flatMap_cons, ← ih]
    cases hi : l.instruction? <;> simp [Line.code, hi]

/-! ## The addresses are the offsets -/

/-- Where lines have no instruction, offsets do not move. -/
theorem offset_eq_of_bare {ls : List Line} {j j' : Nat} (hj : j ≤ j')
    (bare : ∀ m l, j ≤ m → m < j' → ls[m]? = some l → l.instruction? = none) :
    offset ls j = offset ls j' := by
  have split : ls.take j' = ls.take j ++ (ls.take j').drop j := by
    have parts := (List.take_append_drop j (ls.take j')).symm
    rwa [List.take_take, Nat.min_eq_left hj] at parts
  have empty : ((ls.take j').drop j).flatMap Line.code = [] := by
    refine List.flatMap_eq_nil_iff.mpr fun l hl => ?_
    obtain ⟨m, hm⟩ := List.mem_iff_getElem?.mp hl
    rw [List.getElem?_drop, List.getElem?_take] at hm
    split at hm
    · next below => simp [Line.code, bare _ l (Nat.le_add_right j m) below hm]
    · cases hm
  rw [offset, offset, split, List.flatMap_append, empty, List.append_nil]

theorem defines_iff {ls : List Line} {j : Nat} {name : String} :
    Defines ls j name ↔ ∃ s, (ls.map Line.statement)[j]? = some s ∧ s.label = some name := by
  rw [List.getElem?_map]
  constructor
  · rintro ⟨l, hl, hn⟩
    exact ⟨l.statement, by rw [hl]; rfl, hn⟩
  · rintro ⟨s, hs, hn⟩
    obtain ⟨l, hl, rfl⟩ := Option.map_eq_some_iff.mp hs
    exact ⟨l, hl, hn⟩

theorem offset?_eq_some_iff {ls : List Line}
    (distinct : ∀ j j' name, Defines ls j name → Defines ls j' name → j = j')
    {name : String} {address : Nat} :
    offset? ls name = some address ↔ ∃ j, Defines ls j name ∧ address = offset ls j := by
  have found : ∀ j, (ls.findIdx? fun l => l.statement.label == some name) = some j ↔
      Defines ls j name := by
    intro j
    rw [findIdx?_eq_some_iff_of_once]
    · simp only [Defines, beq_iff_eq]
    · intro i j l l' here label there same
      exact distinct i j name ⟨l, here, beq_iff_eq.mp label⟩ ⟨l', there, beq_iff_eq.mp same⟩
  rw [offset?, Option.map_eq_some_iff]
  constructor
  · rintro ⟨j, hj, rfl⟩
    exact ⟨j, (found j).mp hj, rfl⟩
  · rintro ⟨j, hj, rfl⟩
    exact ⟨j, (found j).mpr hj, rfl⟩

theorem once_of_distinct {ls : List Line}
    (distinct : (Layout.empty.extended (ls.map Line.statement)).Distinct) (j j' : Nat) (name : String)
    (h : Defines ls j name) (h' : Defines ls j' name) : j = j' := by
  obtain ⟨s, hs, hn⟩ := defines_iff.mp h
  obtain ⟨s', hs', hn'⟩ := defines_iff.mp h'
  exact eq_of_label_eq (Layout.distinct_iff.mp distinct) hs hn hs' hn'

/-- The addresses of a layout are the offsets of its lines, once these have their instructions. -/
theorem address?_eq_offset? {address? : String → Option Nat} {ls : List Line}
    (built : ∀ l ∈ ls, l.Built address?)
    (distinct : (Layout.empty.extended (ls.map Line.statement)).Distinct) :
    (Layout.empty.extended (ls.map Line.statement)).address? = offset? ls := by
  funext name
  rw [Layout.address?_extended (Layout.distinct_iff.mp distinct), addressIn, offset?,
    List.findIdx?_map]
  apply congrArg (Option.map · _)
  funext k
  exact (offset_eq_totalWidth built k).symm

/-- What it means that a source was assembled to an image with these lines. -/
structure Assembled (source : String) (image : Image) (ls : List Line) : Prop where
  /-- Every line of the source says what the line says here. -/
  reads : Reads 1 (Text.lines source.toList) (ls.map Line.statement)
  /-- A line has an instruction just if it has a mnemonic: the one it asks for,
  when a label stands for the offset at which the line that defines it starts. -/
  built : ∀ l ∈ ls, l.Built (offset? ls)
  /-- The bytes are those of the instructions in the order of the lines. -/
  bytes : image.bytes = ls.flatMap Line.code
  /-- The memory can hold them. -/
  fits : image.size ≤ capacity
  /-- Only one line defines a label. -/
  distinct : ∀ j j' name, Defines ls j name → Defines ls j' name → j = j'
  /-- The layout, made before any instruction, has the same addresses. -/
  layout : ∃ l, Layout.ofSource source = .ok l ∧ l.size = image.size ∧ l.address? = offset? ls
  /-- A line with an instruction starts where the bytes of the instruction stand. -/
  start : ∀ k l, ls[k]? = some l → l.code <+: image.bytes.drop (offset ls k)
  /-- A line without one starts where the next line with one does. -/
  next : ∀ j j', j ≤ j' →
    (∀ m l, j ≤ m → m < j' → ls[m]? = some l → l.instruction? = none) → offset ls j = offset ls j'
  /-- The source ends where the bytes do. -/
  last : offset ls ls.length = image.size
  /-- The byte loaded for a label is the offset of the line that defines the label. -/
  load : ∀ k l c name, ls[k]? = some l → l.statement.command = some c → c.opcode = .ldi →
    c.operands[1]? = some (.label name) →
    ∃ j, Defines ls j name ∧ (image.bytes[offset ls k + 2]?).map UInt8.toNat = some (offset ls j)

/-- Laying out and making the instructions, taken together. -/
theorem exists_lines_of_assemble {source : String} {image : Image}
    (h : assemble source = .ok image) :
    ∃ ls : List Line, Layout.ofSource source = .ok (Layout.empty.extended (ls.map Line.statement)) ∧
      Reads 1 (Text.lines source.toList) (ls.map Line.statement) ∧
      (Layout.empty.extended (ls.map Line.statement)).Distinct ∧ (∀ l ∈ ls, l.Built (offset? ls)) ∧
      image.bytes = ls.flatMap Line.code ∧ image.size ≤ capacity := by
  obtain ⟨a, ha, hc⟩ := bind_eq_ok_iff.mp h
  obtain ⟨layout, hl, ha⟩ := bind_eq_ok_iff.mp ha
  obtain ⟨is, hi, ha⟩ := bind_eq_ok_iff.mp ha
  cases ha
  obtain ⟨ss, reads, rfl, distinct⟩ := Layout.exists_reads_of_addLines hl Layout.distinct_empty
  rw [Layout.instructions, Layout.placed_extended_empty] at hi
  obtain ⟨ls, rfl, rfl, built⟩ := exists_lines hi
  rw [address?_eq_offset? built distinct] at built
  have made : Image.checked (ls.flatMap Line.code) = .ok image := by
    rw [← code_of_lines]
    unfold Assembly.image Assembly.code at hc
    dsimp only at hc
    split at hc
    · next image' checked => cases hc; exact checked
    · cases hc
  obtain ⟨bytes, fits⟩ := Image.checked_eq_ok_iff.mp made
  exact ⟨ls, hl, reads, distinct, built, bytes, fits⟩

/-- A source that is assembled has lines whose offsets in the bytes are the addresses that were
laid out before, for labels used above and below the lines that define them. -/
theorem labels_at_offsets {source : String} {image : Image} (h : assemble source = .ok image) :
    ∃ ls, Assembled source image ls := by
  obtain ⟨ls, hl, reads, distinct, built, bytes, fits⟩ := exists_lines_of_assemble h
  have once := once_of_distinct distinct
  have start : ∀ k l, ls[k]? = some l →
      image.bytes.drop (offset ls k) = l.code ++ (ls.drop (k + 1)).flatMap Line.code := by
    intro k l hk
    obtain ⟨hlt, rfl⟩ := List.getElem?_eq_some_iff.mp hk
    rw [bytes, drop_offset, List.drop_eq_getElem_cons hlt, List.flatMap_cons]
  have last : offset ls ls.length = image.size := by
    rw [offset, List.take_length, ← bytes, Image.size]
  refine ⟨ls, reads, built, bytes, fits, once, ⟨_, hl, ?_, address?_eq_offset? built distinct⟩, ?_,
    fun j j' => offset_eq_of_bare, last, ?_⟩
  · rw [← last, offset_eq_totalWidth built, ← List.length_map Line.statement, List.take_length]
    simp [Layout.extended, Layout.empty]
  · intro k l hk
    exact ⟨_, (start k l hk).symm⟩
  · intro k l c name hk hc opcode operand
    have made := built l (List.mem_of_getElem? hk)
    simp only [Line.Built, hc] at made
    obtain ⟨i, hi, made⟩ := made
    obtain ⟨rd, address, found, small, rfl⟩ := Command.load_label made opcode operand
    obtain ⟨j, hj, rfl⟩ := (offset?_eq_some_iff once).mp found
    refine ⟨j, hj, ?_⟩
    have third : image.bytes[offset ls k + 2]? = some (UInt8.ofNat (offset ls j)) := by
      rw [← List.getElem?_drop, start k l hk]
      simp [Line.code, hi, Instruction.encode, Instruction.operandBytes]
    rw [third, Option.map_some, UInt8.toNat_ofNat', Nat.mod_eq_of_lt small]

/-- Two labels used before and after their lines, one of them with nothing behind it. -/
theorem labels_at_offsets_both_ways :
    assemble "LDI R1, end\nstart: PRN R1 ; once\n\nLDI R0, start\nend:" =
      .ok ⟨[0x82, 1, 8, 0x47, 1, 0x82, 0, 3]⟩ ∧
    ∃ ls, Assembled "LDI R1, end\nstart: PRN R1 ; once\n\nLDI R0, start\nend:"
      ⟨[0x82, 1, 8, 0x47, 1, 0x82, 0, 3]⟩ ls := by
  have assembled : assemble "LDI R1, end\nstart: PRN R1 ; once\n\nLDI R0, start\nend:" =
      .ok ⟨[0x82, 1, 8, 0x47, 1, 0x82, 0, 3]⟩ := by cbv
  exact ⟨assembled, labels_at_offsets assembled⟩

end ByteMachine.Source
