import ByteMachine.Proofs.Source.Joining

/-
  Programs behind one another. A source that is assembled behind another one becomes the bytes
  that it becomes alone, but for the addresses that are written as labels, which are greater by
  the size of the first (`relocation`). Nothing else depends on where a command stands
  (`Command.instruction_cases`). An address that is no byte any more is refused on the first
  line that uses it, before the size is looked at.
-/

namespace ByteMachine.Source

/-- Whether a line of the source defines the label. -/
def DefinesLabel (source name : String) : Prop :=
  ∃ k s, Says (Text.lines source.toList) k s ∧ s.label = some name

/-- Whether line `k`, counted from 0, uses the label, which stands for the address. -/
def Uses (source : String) (k : Nat) (name : String) (address : Nat) : Prop :=
  ∃ s c l, Says (Text.lines source.toList) k s ∧ s.command = some c ∧ .label name ∈ c.operands ∧
    Layout.ofSource source = .ok l ∧ l.address? name = some address

/-- Whether the lines are those of the source, and their bytes are those of the image. -/
structure Coded (source : String) (image : Image) (ls : List Line) : Prop where
  reads : Reads 1 (Text.lines source.toList) (ls.map Line.statement)
  built : ∀ l ∈ ls, l.Built (offset? ls)
  bytes : image.bytes = ls.flatMap Line.code

namespace Line

/-- Whether the line loads a byte that is written as a label. -/
def loadsLabel (l : Line) : Bool :=
  match l.statement.command with
  | some ⟨.ldi, [_, .label _]⟩ => true
  | _ => false

/-- The bytes of the line behind `size` bytes more: only a byte written as a label differs. -/
def codeBehind (size : Nat) (l : Line) : List UInt8 :=
  if l.loadsLabel then l.code.modify 2 fun b => UInt8.ofNat (size + b.toNat) else l.code

end Line

/-! ## Lines that have moved -/

namespace Line

/-- Whether the line uses the label, which stands for the address. -/
def UsesLabel (address? : String → Option Nat) (l : Line) (name : String) (a : Nat) : Prop :=
  ∃ c, l.statement.command = some c ∧ .label name ∈ c.operands ∧ address? name = some a

/-- The line so many lines further down and so many bytes further on. -/
def behind (lines size : Nat) (l : Line) : Line where
  statement := l.statement.down lines
  instruction? :=
    match l.loadsLabel, l.instruction? with
    | true, some (.ldi rd v) => some (.ldi rd (UInt8.ofNat (size + v.toNat)))
    | _, i? => i?

section Built
variable {address? address?' : String → Option Nat} {l : Line}

/-- A line that loads the address of a label. -/
structure Loads (address? : String → Option Nat) (l : Line) (rd : Register) (name : String) (a : Nat) :
    Prop where
  command : l.statement.command = some ⟨.ldi, [.register rd, .label name]⟩
  found : address? name = some a
  small : a < 256
  instruction : l.instruction? = some (.ldi rd (UInt8.ofNat a))

theorem Loads.loadsLabel {rd : Register} {name : String} {a : Nat} (h : l.Loads address? rd name a) :
    l.loadsLabel = true := by
  rw [Line.loadsLabel, h.command]

theorem Loads.usesLabel {rd : Register} {name : String} {a : Nat} (h : l.Loads address? rd name a) :
    l.UsesLabel address? name a := ⟨_, h.command, by simp, h.found⟩

theorem Loads.eq_of_usesLabel {rd : Register} {name other : String} {a b : Nat}
    (h : l.Loads address? rd name a) (uses : l.UsesLabel address? other b) :
    other = name ∧ b = a := by
  obtain ⟨c, command, mem, found⟩ := uses
  rw [h.command] at command
  cases command
  obtain rfl : other = name := by simpa using mem
  rw [h.found] at found
  exact ⟨rfl, (Option.some.inj found).symm⟩

theorem Loads.code {rd : Register} {name : String} {a : Nat} (h : l.Loads address? rd name a) :
    l.code = [0x82, rd.byte, UInt8.ofNat a] := by
  rw [Line.code, h.instruction]
  rfl

/-- A line loads the address of a label, or has the same instruction wherever it is. -/
theorem Built.loads_or (h : l.Built address?) : (∃ rd name a, l.Loads address? rd name a) ∨
    l.loadsLabel = false ∧ (∀ name a, ¬ l.UsesLabel address? name a) ∧
      ∀ lines address?', Built address?' ⟨l.statement.down lines, l.instruction?⟩ := by
  unfold Built at h
  split at h
  · next none =>
    refine .inr ⟨by rw [loadsLabel, none], ?_, ?_⟩
    · rintro name a ⟨c, some, -⟩
      rw [none] at some
      cases some
    · intro lines address?'
      simp only [Built, Statement.down, none, h]
  · next c command =>
    obtain ⟨i, has, made⟩ := h
    obtain ⟨rd, name, a, rfl, found, small, rfl⟩ | ⟨free, made⟩ := Command.instruction_cases made
    · exact .inl ⟨rd, name, a, command, found, small, has⟩
    · refine .inr ⟨?_, ?_, ?_⟩
      · unfold loadsLabel
        split
        · next x name same =>
          rw [command] at same
          cases same
          exact absurd (by simp) (free name)
        · rfl
      · rintro name a ⟨d, same, mem, -⟩
        rw [command] at same
        cases same
        exact free name mem
      · intro lines address?'
        simp only [Built, Statement.down, command]
        exact ⟨i, has, made _ _⟩

/-- A line stays as it is while the addresses that it uses do. -/
theorem Built.mono (h : l.Built address?)
    (agree : ∀ name a, address? name = some a → address?' name = some a) : l.Built address?' := by
  obtain ⟨rd, name, a, loads⟩ | ⟨-, -, same⟩ := h.loads_or
  · rw [Built, loads.command]
    have found := agree name a loads.found
    exact ⟨_, loads.instruction, Command.instruction_load found loads.small⟩
  · exact same 0 address?'

variable {lines size : Nat}

theorem behind_of_loads {rd : Register} {name : String} {a : Nat} (h : l.Loads address? rd name a) :
    l.behind lines size =
      ⟨l.statement.down lines, some (.ldi rd (UInt8.ofNat (size + a)))⟩ := by
  rw [behind, h.loadsLabel, h.instruction]
  dsimp only
  rw [UInt8.toNat_ofNat_of_lt' h.small]

theorem behind_of_not_loads (h : l.loadsLabel = false) :
    l.behind lines size = ⟨l.statement.down lines, l.instruction?⟩ := by
  rw [behind, h]

/-- A line has moved as it should if the labels that it uses have, and are bytes still. -/
theorem Built.behind (h : l.Built address?) (moved : ∀ name a, l.UsesLabel address? name a →
      address?' name = some (size + a) ∧ size + a < 256) :
    (l.behind lines size).Built address?' := by
  obtain ⟨rd, name, a, loads⟩ | ⟨free, -, same⟩ := h.loads_or
  · obtain ⟨found, small⟩ := moved name a loads.usesLabel
    rw [behind_of_loads loads]
    simp only [Built, Statement.down, loads.command]
    exact ⟨_, rfl, Command.instruction_load found small⟩
  · rw [behind_of_not_loads free]
    exact same lines address?'

theorem Built.code_behind (h : l.Built address?) : (l.behind lines size).code = l.codeBehind size := by
  obtain ⟨rd, name, a, loads⟩ | ⟨free, -⟩ := h.loads_or
  · rw [behind_of_loads loads, codeBehind, loads.loadsLabel, if_pos rfl, loads.code]
    show [0x82, rd.byte, UInt8.ofNat (size + a)] =
      [0x82, rd.byte, UInt8.ofNat (size + (UInt8.ofNat a).toNat)]
    rw [UInt8.toNat_ofNat_of_lt' loads.small]
  · rw [behind_of_not_loads free, codeBehind, free]
    rfl

end Built
end Line

/-! ## Assembling lines -/

/-- Making the instructions succeeds if each line has the one that its command stands for. -/
theorem instructions_of_built {address? : String → Option Nat} {ls : List Line}
    (built : ∀ l ∈ ls, l.Built address?) :
    ((ls.map Line.statement).filterMap Statement.placed?).mapM
      (fun p => p.command.instruction p.line address?) = .ok (ls.filterMap Line.instruction?) := by
  induction ls with
  | nil => rfl
  | cons l ls ih =>
    obtain ⟨first, others⟩ := List.forall_mem_cons.mp built
    rw [List.map_cons, Layout.placed_cons, List.filterMap_cons]
    unfold Line.Built at first
    split at first
    · next none =>
      rw [first, Statement.placed?, none]
      exact ih others
    · next c command =>
      obtain ⟨i, has, made⟩ := first
      rw [has, Statement.placed?, command]
      exact mapM_cons_eq_ok_iff.mpr ⟨i, _, made, ih others, rfl⟩

theorem ofSource_of_reads {source : String} {ss : List Statement}
    (reads : Reads 1 (Text.lines source.toList) ss) (once : (ss.filterMap Statement.label).Nodup) :
    Layout.ofSource source = .ok (Layout.empty.extended ss) :=
  Layout.addLines_of_reads reads (Layout.distinct_iff.mpr once)

/-- Lines that have their instructions are assembled if the memory can hold the bytes. -/
theorem assemble_of_built {source : String} {ls : List Line}
    (reads : Reads 1 (Text.lines source.toList) (ls.map Line.statement))
    (once : ((ls.map Line.statement).filterMap Statement.label).Nodup)
    (built : ∀ l ∈ ls, l.Built (addressIn (ls.map Line.statement)))
    (fits : (ls.flatMap Line.code).length ≤ capacity) :
    assemble source = .ok ⟨ls.flatMap Line.code⟩ := by
  have made : Layout.instructions (Layout.empty.extended (ls.map Line.statement)) =
      .ok (ls.filterMap Line.instruction?) := by
    rw [Layout.instructions, Layout.placed_extended_empty, Layout.address?_extended once]
    exact instructions_of_built built
  have checked : Image.checked (ls.flatMap Line.code) = .ok ⟨ls.flatMap Line.code⟩ := if_pos fits
  rw [assemble, Assembly.ofSource, ofSource_of_reads reads once, ok_bind, made, ok_bind, pure_eq_ok,
    ok_bind, Assembly.image, Assembly.code, code_of_lines, checked]

/-- What is known of the lines of a source that was assembled, with addresses for offsets. -/
theorem exists_built_of_assemble {source : String} {image : Image}
    (h : assemble source = .ok image) :
    ∃ ls, Coded source image ls ∧ ((ls.map Line.statement).filterMap Statement.label).Nodup ∧
      (∀ l ∈ ls, l.Built (addressIn (ls.map Line.statement))) ∧
      image.size = totalWidth (ls.map Line.statement) := by
  obtain ⟨ls, -, reads, distinct, built, bytes, -⟩ := exists_lines_of_assemble h
  have once := Layout.distinct_iff.mp distinct
  have same : offset? ls = addressIn (ls.map Line.statement) := by
    rw [← address?_eq_offset? built distinct, Layout.address?_extended once]
  refine ⟨ls, ⟨reads, built, bytes⟩, once, same ▸ built, ?_⟩
  rw [Image.size, bytes, length_code_of_built built]

/-! ## Two sources -/

theorem mem_labels_of_addressIn {ss : List Statement} {name : String} {a : Nat}
    (found : addressIn ss name = some a) : name ∈ ss.filterMap Statement.label := by
  obtain ⟨j, here, -⟩ := Option.map_eq_some_iff.mp found
  obtain ⟨inside, label, -⟩ := List.findIdx?_eq_some_iff_getElem.mp here
  exact List.mem_filterMap.mpr ⟨ss[j], List.getElem_mem inside, beq_iff_eq.mp label⟩

/-- What joined sources say: the lines of the first, what there may be between, and the lines of the
second further down. -/
def said (s : String) (ls : List Line) (pad : List Statement) (ms : List Line) : List Statement :=
  ls.map Line.statement ++ pad ++ (ms.map Line.statement).map (Statement.down (linesBefore s))

/-- The lines of two sources that are joined, each made into instructions by itself. -/
structure Seam (s t : String) (ls : List Line) (pad : List Statement) (ms : List Line) : Prop where
  front : ∀ l ∈ ls, l.Built (addressIn (ls.map Line.statement))
  back : ∀ l ∈ ms, l.Built (addressIn (ms.map Line.statement))
  silent : ∀ p ∈ pad, p.Silent
  before : (ls.map Line.statement ++ pad).length = linesBefore s
  reads : Reads 1 (Text.lines (joined s t).toList) (said s ls pad ms)
  once : ((said s ls pad ms).filterMap Statement.label).Nodup

namespace Seam
variable {s t : String} {ls ms : List Line} {pad : List Statement}

/-- The bytes of the first source. -/
def size (ls : List Line) : Nat := totalWidth (ls.map Line.statement)

theorem found_front (seam : Seam s t ls pad ms) {name : String} {a : Nat}
    (found : addressIn (ls.map Line.statement) name = some a) :
    addressIn (said s ls pad ms) name = some a := by
  rw [said, addressIn_join seam.silent, found, Option.some_or]

/-- The labels of the second source are not those of the first, so they are found behind it. -/
theorem found_back (seam : Seam s t ls pad ms) {name : String} {a : Nat}
    (found : addressIn (ms.map Line.statement) name = some a) :
    addressIn (said s ls pad ms) name = some (size ls + a) := by
  have once := seam.once
  rw [said, labels_join seam.silent, List.nodup_append] at once
  have absent : addressIn (ls.map Line.statement) name = none := by
    rw [Option.eq_none_iff_forall_ne_some]
    intro b other
    exact once.2.2 _ (mem_labels_of_addressIn other) _ (mem_labels_of_addressIn found) rfl
  rw [said, addressIn_join seam.silent, absent, found, Option.none_or, Option.map_some, size]

theorem built_front (seam : Seam s t ls pad ms) {l : Line} (mem : l ∈ ls) :
    l.Built (addressIn (said s ls pad ms)) :=
  (seam.front l mem).mono fun _ _ => seam.found_front

theorem built_pad (seam : Seam s t ls pad ms) {p : Statement} (mem : p ∈ pad) :
    Line.Built (addressIn (said s ls pad ms)) ⟨p, none⟩ := by
  simp only [Line.Built, (seam.silent p mem).command]

theorem built_back (seam : Seam s t ls pad ms) {l : Line} (mem : l ∈ ms)
    (near : ∀ name a, l.UsesLabel (addressIn (ms.map Line.statement)) name a → size ls + a < 256) :
    (l.behind (linesBefore s) (size ls)).Built (addressIn (said s ls pad ms)) := by
  refine (seam.back l mem).behind fun name a uses => ⟨?_, near name a uses⟩
  obtain ⟨c, -, -, found⟩ := uses
  exact seam.found_back found

/-- If the addresses stay bytes, the first source is followed by the second one, moved. -/
theorem assemble_near (seam : Seam s t ls pad ms) (near : ∀ l ∈ ms, ∀ name a,
      l.UsesLabel (addressIn (ms.map Line.statement)) name a → size ls + a < 256)
    (fits : size ls + totalWidth (ms.map Line.statement) ≤ capacity) :
    assemble (joined s t) =
      .ok ⟨ls.flatMap Line.code ++ ms.flatMap (Line.codeBehind (size ls))⟩ := by
  -- The lines of the join, each with the instruction that it has there.
  let all : List Line :=
    ls ++ pad.map (Line.mk · none) ++ ms.map (Line.behind (linesBefore s) (size ls))
  have statements : all.map Line.statement = said s ls pad ms := by
    simp [all, said, Line.behind, Function.comp_def]
  have built : ∀ l ∈ all, l.Built (addressIn (said s ls pad ms)) := by
    intro l mem
    obtain mem | moved := List.mem_append.mp mem
    · obtain first | between := List.mem_append.mp mem
      · exact seam.built_front first
      · obtain ⟨p, inside, rfl⟩ := List.mem_map.mp between
        exact seam.built_pad inside
    · obtain ⟨m, inside, rfl⟩ := List.mem_map.mp moved
      exact seam.built_back inside (near m inside)
  have code : all.flatMap Line.code =
      ls.flatMap Line.code ++ ms.flatMap (Line.codeBehind (size ls)) := by
    have moved : ms.flatMap (fun m => (m.behind (linesBefore s) (size ls)).code) =
        ms.flatMap (Line.codeBehind (size ls)) :=
      List.flatMap_congr fun m mem => (seam.back m mem).code_behind
    have none : pad.flatMap (fun p => (Line.mk p none).code) = [] :=
      List.flatMap_eq_nil_iff.mpr fun p _ => rfl
    simp only [all, List.flatMap_append, List.flatMap_map, moved, none, List.append_nil]
  rw [← statements] at built
  rw [← code]
  refine assemble_of_built ?_ ?_ built ?_
  · rw [statements]
    exact seam.reads
  · rw [statements]
    exact seam.once
  · rw [length_code_of_built built, statements, said, totalWidth_join seam.silent]
    exact fits

theorem said_back (seam : Seam s t ls pad ms) (k : Nat) :
    (said s ls pad ms)[linesBefore s + k]? =
      ms[k]?.map fun m => m.statement.down (linesBefore s) := by
  have after : (ls.map Line.statement ++ pad).length ≤ linesBefore s + k := by
    rw [seam.before]
    exact Nat.le_add_right _ _
  rw [said, List.getElem?_append_right after, seam.before, Nat.add_sub_cancel_left,
    List.getElem?_map, List.getElem?_map, Option.map_map]
  rfl

/-- Above the second source nothing is wrong with the operands. -/
theorem fit_before (seam : Seam s t ls pad ms) {j : Nat} (above : j < linesBefore s)
    (e : SourceError) : ¬ CommandFault (addressIn (said s ls pad ms)) (said s ls pad ms) j e := by
  rintro ⟨p, c, line, rest⟩
  have inside := line
  rw [← seam.before] at above
  rw [said, List.getElem?_append_left above] at inside
  obtain first | between := List.mem_append.mp (List.mem_of_getElem? inside)
  · obtain ⟨l, mem, rfl⟩ := List.mem_map.mp first
    exact not_commandFault_of_line (seam.built_front mem) line e ⟨_, c, line, rest⟩
  · exact not_commandFault_of_line (seam.built_pad between) line e ⟨_, c, line, rest⟩

/-- An address that is no byte any more is refused on the first line that uses it. -/
theorem assemble_far (seam : Seam s t ls pad ms) {k : Nat} {l : Line} (here : ms[k]? = some l)
    {name : String} {a : Nat} (uses : l.UsesLabel (addressIn (ms.map Line.statement)) name a)
    (far : 256 ≤ size ls + a) (near : ∀ j < k, ∀ m, ms[j]? = some m → ∀ name a,
      m.UsesLabel (addressIn (ms.map Line.statement)) name a → size ls + a < 256) :
    assemble (joined s t) = .error (.invalidImmediate (linesBefore s + (k + 1))
      (name ++ " = " ++ Nat.repr (size ls + a))) := by
  have place := seam.said_back k
  rw [here, Option.map_some] at place
  have number : (l.statement.down (linesBefore s)).line = linesBefore s + (k + 1) := by
    obtain ⟨text, -, read⟩ := seam.reads.says_iff.mp place
    rw [Statement.line_of_parse read, Nat.add_comm, Nat.add_assoc]
  rw [assemble_eq_error_iff_of_laid (ofSource_of_reads seam.reads seam.once) seam.once]
  refine .inl ⟨linesBefore s + k, ?_, ?_⟩
  · obtain ⟨rd, other, b, loads⟩ | ⟨-, free, -⟩ :=
      (seam.back l (List.mem_of_getElem? here)).loads_or
    · obtain ⟨rfl, rfl⟩ := loads.eq_of_usesLabel uses
      -- The register fits its place, so the label is the first operand that does not.
      refine ⟨_, _, place, loads.command, ?_⟩
      rw [number]
      exact .operand (length_places .ldi) (.later nofun (.here (.far (seam.found_back loads.found) far)))
    · exact absurd uses (free name a)
  · intro j less e
    obtain above | below := Nat.lt_or_ge j (linesBefore s)
    · exact seam.fit_before above e
    · obtain ⟨i, rfl⟩ := Nat.exists_eq_add_of_le below
      rintro ⟨p, c, line, rest⟩
      have inside := line
      rw [seam.said_back, Option.map_eq_some_iff] at inside
      obtain ⟨m, there, rfl⟩ := inside
      have built := seam.built_back (List.mem_of_getElem? there)
        (near i (Nat.lt_of_add_lt_add_left less) m there)
      exact not_commandFault_of_line built line e ⟨_, c, line, rest⟩

end Seam

section Sources
variable {s t source : String} {c d image : Image} {ls ms : List Line} {name : String}

theorem definesLabel_iff {ss : List Statement} (reads : Reads 1 (Text.lines source.toList) ss) :
    DefinesLabel source name ↔ name ∈ ss.filterMap Statement.label := by
  rw [List.mem_filterMap]
  constructor
  · rintro ⟨k, s, ⟨text, line, said⟩, label⟩
    rw [Nat.add_comm] at said
    exact ⟨s, List.mem_of_getElem? (reads.says_iff.mpr ⟨text, line, said⟩), label⟩
  · rintro ⟨s, mem, label⟩
    obtain ⟨k, here⟩ := List.mem_iff_getElem?.mp mem
    obtain ⟨text, line, said⟩ := reads.says_iff.mp here
    rw [Nat.add_comm] at said
    exact ⟨k, s, ⟨text, line, said⟩, label⟩

/-- The labels of a source are those in the table of its layout. -/
theorem mem_of_definesLabel {names : List String}
    (laid : (Layout.ofSource source).map (fun l => l.labels.map Prod.fst) = .ok names)
    (h : DefinesLabel source name) : name ∈ names := by
  cases layout : Layout.ofSource source with
  | error e =>
    rw [layout] at laid
    cases laid
  | ok l =>
    obtain ⟨ss, reads, rfl, -⟩ := Layout.exists_reads_of_addLines layout Layout.distinct_empty
    rw [layout] at laid
    cases laid
    have table : (Layout.empty.extended ss).labels.map Prod.fst =
        (ss.filterMap Statement.label).reverse := by
      simp [Layout.extended, Layout.empty, fst_labelTable]
    show name ∈ (Layout.empty.extended ss).labels.map Prod.fst
    rw [table, List.mem_reverse]
    exact (definesLabel_iff reads).mp h

theorem uses_iff (coded : Coded source image ls)
    (once : ((ls.map Line.statement).filterMap Statement.label).Nodup) {k a : Nat} :
    Uses source k name a ↔
      ∃ l, ls[k]? = some l ∧ l.UsesLabel (addressIn (ls.map Line.statement)) name a := by
  have laid := ofSource_of_reads coded.reads once
  constructor
  · rintro ⟨s, c, l, ⟨text, line, said⟩, command, mem, laid', found⟩
    rw [laid] at laid'
    cases laid'
    rw [Layout.address?_extended once] at found
    rw [Nat.add_comm] at said
    have here := coded.reads.says_iff.mpr ⟨text, line, said⟩
    rw [List.getElem?_map] at here
    obtain ⟨l, there, rfl⟩ := Option.map_eq_some_iff.mp here
    exact ⟨l, there, c, command, mem, found⟩
  · rintro ⟨l, here, c, command, mem, found⟩
    have there : (ls.map Line.statement)[k]? = some l.statement := by
      rw [List.getElem?_map, here, Option.map_some]
    obtain ⟨text, line, said⟩ := coded.reads.says_iff.mp there
    rw [Nat.add_comm] at said
    rw [← Layout.address?_extended once] at found
    exact ⟨_, c, _, ⟨text, line, said⟩, command, mem, laid, found⟩

/-- Sources that are assembled each by itself and share no label can be joined. -/
theorem exists_seam (first : Coded s c ls) (second : Coded t d ms)
    (front : ∀ l ∈ ls, l.Built (addressIn (ls.map Line.statement)))
    (back : ∀ l ∈ ms, l.Built (addressIn (ms.map Line.statement)))
    (once : ((ls.map Line.statement).filterMap Statement.label).Nodup)
    (once' : ((ms.map Line.statement).filterMap Statement.label).Nodup)
    (apart : ∀ name, DefinesLabel s name → ¬ DefinesLabel t name) : ∃ pad, Seam s t ls pad ms := by
  obtain ⟨pad, silent, length, reads⟩ := first.reads.join second.reads
  refine ⟨pad, front, back, silent, length, reads, ?_⟩
  rw [said, labels_join silent, List.nodup_append]
  refine ⟨once, once', ?_⟩
  rintro name mem _ mem' rfl
  exact apart name ((definesLabel_iff first.reads).mpr mem) ((definesLabel_iff second.reads).mpr mem')

end Sources

/-- What becomes of the second of two sources, made of the lines `ms`, behind the first one. -/
structure Relocated (s t : String) (c d : Image) (ms : List Line) : Prop where
  /-- By itself it becomes the bytes of these lines. -/
  coded : Coded t d ms
  /-- The third byte of a line that loads a label is the address of the label. -/
  loads : ∀ k m, ms[k]? = some m → m.loadsLabel = true →
    ∃ op rd b name, m.code = [op, rd, b] ∧ Uses t k name b.toNat
  /-- Line `k` of the second source has this number in the joined source, both counted from 0. -/
  numbered : ∀ k, (Text.lines (joined s t).toList)[linesBefore s + k]? = (Text.lines t.toList)[k]?
  /-- If there is room and every address used is a byte still, these bytes are greater by the size of
  the first, and nothing else changes. -/
  near : c.size + d.size ≤ capacity → (∀ k name a, Uses t k name a → c.size + a ≤ 255) →
    assemble (joined s t) = .ok ⟨c.bytes ++ ms.flatMap (Line.codeBehind c.size)⟩
  /-- If an address used is no byte any more, the first line that uses such a one is refused. -/
  far : (∃ k name a, Uses t k name a ∧ 255 < c.size + a) →
    ∃ k name a, Uses t k name a ∧ 255 < c.size + a ∧
      (∀ j < k, ∀ name a, Uses t j name a → c.size + a ≤ 255) ∧
      assemble (joined s t) = .error (.invalidImmediate (linesBefore s + (k + 1))
        (name ++ " = " ++ Nat.repr (c.size + a)))

/-- A source that shares no label with the one before it is relocated: only the addresses that are
written as labels depend on where it stands. -/
theorem relocation {s t : String} {c d : Image} (first : assemble s = .ok c)
    (second : assemble t = .ok d) (apart : ∀ name, DefinesLabel s name → ¬ DefinesLabel t name) :
    ∃ ms, Relocated s t c d ms := by
  obtain ⟨ls, codedFirst, once, front, sizeFirst⟩ := exists_built_of_assemble first
  obtain ⟨ms, coded, once', back, size⟩ := exists_built_of_assemble second
  obtain ⟨pad, seam⟩ := exists_seam codedFirst coded front back once once' apart
  have uses : ∀ {k name a}, Uses t k name a ↔ ∃ m, ms[k]? = some m ∧
      m.UsesLabel (addressIn (ms.map Line.statement)) name a := uses_iff coded once'
  refine ⟨ms, coded, ?_, ?_, ?_, ?_⟩
  · intro k m here loads
    obtain ⟨rd, name, a, load⟩ | ⟨free, -⟩ := (back m (List.mem_of_getElem? here)).loads_or
    · refine ⟨_, _, _, name, load.code, uses.mpr ⟨m, here, ?_⟩⟩
      rw [UInt8.toNat_ofNat_of_lt' load.small]
      exact load.usesLabel
    · rw [free] at loads
      cases loads
  · intro k
    have length := Text.length_lines_concat s.toList
    rw [lines_joined, linesBefore, ← length, List.getElem?_append_right (Nat.le_add_right _ _),
      Nat.add_sub_cancel_left]
  · intro room near
    rw [sizeFirst, size] at room
    rw [codedFirst.bytes, sizeFirst]
    refine seam.assemble_near (fun m mem name a used => ?_) room
    obtain ⟨k, here⟩ := List.mem_iff_getElem?.mp mem
    have small := near k name a (uses.mpr ⟨m, here, used⟩)
    rw [sizeFirst] at small
    exact Nat.lt_succ_of_le small
  · intro far
    classical
    obtain ⟨k, ⟨name, a, used, past⟩, least⟩ : ∃ k, (∃ name a, Uses t k name a ∧ 255 < c.size + a) ∧
        ∀ j < k, ¬ ∃ name a, Uses t j name a ∧ 255 < c.size + a :=
      ⟨Nat.find far, Nat.find_spec far, fun j => Nat.find_min far⟩
    have near : ∀ j < k, ∀ name a, Uses t j name a → c.size + a ≤ 255 :=
      fun j less name a used => Nat.le_of_not_lt fun past => least j less ⟨name, a, used, past⟩
    obtain ⟨m, here, load⟩ := uses.mp used
    refine ⟨k, name, a, used, past, near, ?_⟩
    rw [sizeFirst] at past near ⊢
    refine seam.assemble_far here load past fun j less n there name a used => ?_
    exact Nat.lt_succ_of_le (near j less name a (uses.mpr ⟨n, there, used⟩))

/-- Two loads of labels, a return before the newline between the sources, and no newline behind. -/
theorem relocation_of_labels :
    assemble "a: LDI R0, a ; here\r" = .ok ⟨[0x82, 0, 0]⟩ ∧
    assemble "LDI R1, b\nb: LDI R2, 7\nLDI R3, B\nB:" =
      .ok ⟨[0x82, 1, 3, 0x82, 2, 7, 0x82, 3, 9]⟩ ∧
    (∀ name, DefinesLabel "a: LDI R0, a ; here\r" name →
      ¬ DefinesLabel "LDI R1, b\nb: LDI R2, 7\nLDI R3, B\nB:" name) ∧
    (∃ ms, Relocated "a: LDI R0, a ; here\r" "LDI R1, b\nb: LDI R2, 7\nLDI R3, B\nB:"
      ⟨[0x82, 0, 0]⟩ ⟨[0x82, 1, 3, 0x82, 2, 7, 0x82, 3, 9]⟩ ms) ∧
    assemble (joined "a: LDI R0, a ; here\r" "LDI R1, b\nb: LDI R2, 7\nLDI R3, B\nB:") =
      .ok ⟨[0x82, 0, 0, 0x82, 1, 6, 0x82, 2, 7, 0x82, 3, 12]⟩ := by
  have first : assemble "a: LDI R0, a ; here\r" = .ok ⟨[0x82, 0, 0]⟩ := by cbv
  have second : assemble "LDI R1, b\nb: LDI R2, 7\nLDI R3, B\nB:" =
      .ok ⟨[0x82, 1, 3, 0x82, 2, 7, 0x82, 3, 9]⟩ := by cbv
  have both : assemble (joined "a: LDI R0, a ; here\r" "LDI R1, b\nb: LDI R2, 7\nLDI R3, B\nB:") =
      .ok ⟨[0x82, 0, 0, 0x82, 1, 6, 0x82, 2, 7, 0x82, 3, 12]⟩ := by cbv
  have apart : ∀ name, DefinesLabel "a: LDI R0, a ; here\r" name →
      ¬ DefinesLabel "LDI R1, b\nb: LDI R2, 7\nLDI R3, B\nB:" name := by
    intro name front back
    have here : name ∈ ["a"] := mem_of_definesLabel (by cbv) front
    have there : name ∈ ["B", "b"] := mem_of_definesLabel (by cbv) back
    simp only [List.mem_cons, List.not_mem_nil, or_false] at here there
    subst here
    exact there.elim (by decide) (by decide)
  exact ⟨first, second, apart, relocation first second apart, both⟩

end ByteMachine.Source
