import ByteMachine.Proofs.Source.Tiling
import ByteMachine.Source.Statement

/-
  Names of registers that are read by themselves. A text is read as a register if the
  name of one stands at its front, blanks aside, and no word goes on behind the name
  (`registerOf_eq_ok_iff`). Whatever else is behind the name is not looked at: a comma, a
  comment, another name. So a text is read as a register without being the name of one
  just if it has a name and something of that kind behind it (`readsName_iff`).
-/

namespace ByteMachine.Source
open Token

/-- The ways to write the name of a register. -/
inductive NameOf (r : Register) : List Char → Prop
  | number {c : Char} {digits : List Char} (letter : c = 'r' ∨ c = 'R') (some : digits ≠ [])
      (all : ∀ d ∈ digits, d.isDigit = true) (value : Text.valueIn 10 digits = r.index) :
      NameOf r (c :: digits)
  | pointer {c d : Char} (first : c = 's' ∨ c = 'S') (second : d = 'p' ∨ d = 'P')
      (same : r = .sp) : NameOf r [c, d]

/-- Whether the text is the name of the register, blanks aside. -/
def IsName (r : Register) (text : String) : Prop :=
  ∃ name, Text.Trimmed text.toList name ∧ NameOf r name

/-- Whether the text begins with the name of the register, blanks aside, and no word goes on there. -/
def BeginsWithName (r : Register) (text : String) : Prop :=
  ∃ name rest, Text.Trimmed text.toList (name ++ rest) ∧ NameOf r name ∧ Boundary rest

/-- The error that quotes the text without the blanks around it. -/
def Refused (text : String) (e : SourceError) : Prop :=
  ∃ trimmed, Text.Trimmed text.toList trimmed ∧ e = .invalidRegister 0 (String.ofList trimmed)

/-- Whether the text is read as a register just if it is the name of that register. -/
structure ReadsName (text : String) : Prop where
  accepts : ∀ r, registerOf text = .ok r ↔ IsName r text
  refuses : ∀ e, registerOf text = .error e ↔ (∀ r, ¬ IsName r text) ∧ Refused text e

variable {r : Register} {w cs rest : List Char} {text : String} {n : Nat} {e : SourceError}

/-! ## Names as tokens -/

theorem NameOf.spelled (h : NameOf r w) : Rule.register.Spells w := by
  cases h with
  | number letter some all => exact .register letter some all
  | pointer first second => exact .pointer first second

theorem NameOf.carries (h : NameOf r w) : Carries w r.index (.register r.index) := by
  have spelled := h.spelled
  cases h with
  | number letter some all value =>
    rw [← value]
    exact .register letter spelled
  | pointer first second same =>
    subst same
    exact .pointer first spelled

/-- What carries the number of a register is a name of it. -/
theorem nameOf_of_carries (h : Carries w n (.register r.index)) : NameOf r w := by
  generalize index : (r.index : Nat) = i at h
  cases h with
  | register letter spelled =>
    cases spelled with
    | register _ some all => exact .number letter some all index.symm
    | pointer first =>
      rcases first with rfl | rfl <;> exact absurd letter (by decide)
  | pointer first spelled =>
    have same : r = .sp := by
      cases r
      exact congrArg Register.mk (Fin.ext index)
    cases spelled with
    | register letter =>
      rcases first with rfl | rfl <;> exact absurd letter (by decide)
    | pointer _ second => exact .pointer first second same

/-- Nothing longer is spelled in front of a boundary. -/
theorem longest_of_boundary (ne : w ≠ []) (hrest : Boundary rest) : Longest w rest := by
  intro rule v spelled pre
  exact Nat.le_trans (spelled.le_reach_of_prefix pre) (Rule.reach_le_of_boundary ne hrest rule)

/-- A register is a word, but for the rule that it is taken by. -/
theorem word_of_register (h : Rule.register.Spells w) : Rule.word.Spells w := by
  cases h with
  | register letter _ digits =>
    refine .word ?_ fun d mem => continuesWord_of_isDigit (digits d mem)
    rcases letter with rfl | rfl <;> rfl
  | pointer first second =>
    refine .word ?_ (List.forall_mem_singleton.mpr ?_)
    · rcases first with rfl | rfl <;> rfl
    · rcases second with rfl | rfl <;> rfl

theorem NameOf.continuesWord (h : NameOf r w) : ∀ c ∈ w, continuesWord c = true := by
  cases word_of_register h.spelled with
  | word starts all =>
    exact List.forall_mem_cons.mpr ⟨continuesWord_of_startsWord starts, all⟩

/-- A register that is the longest token at its place ends at a boundary. -/
theorem boundary_of_longest (h : Rule.register.Spells w) (longest : Longest w rest) :
    Boundary rest := by
  cases rest with
  | nil => exact boundary_nil
  | cons c rest =>
    rw [boundary_cons, Bool.eq_false_iff]
    intro goes
    cases word_of_register h with
    | @word d w starts all =>
      have longer : Rule.word.Spells (d :: (w ++ [c])) :=
        .word starts (List.forall_mem_append.mpr ⟨all, by simpa using goes⟩)
      have far := longest .word _ longer ⟨rest, by simp⟩
      simp at far

/-- The token at the front of a text is a register just if it is the name of one in front of a
boundary. -/
theorem munched_register_iff :
    Munched w rest (.register r.index) ↔ NameOf r w ∧ Boundary rest := by
  constructor
  · intro munched
    cases munched with
    | longest kindOf longest =>
      cases kindOf with
      | number carries small =>
        have name := nameOf_of_carries carries
        exact ⟨name, boundary_of_longest name.spelled longest⟩
  · rintro ⟨name, hrest⟩
    have small : (r.index : Nat) ≤ 65535 := Nat.le_trans (Nat.le_of_lt r.index.isLt) (by decide)
    have longest := longest_of_boundary name.spelled.ne_nil hrest
    exact .longest (.number name.carries small) longest

/-! ## The first token -/

/-- In front of a register there is no gap that does not begin with a blank. -/
theorem no_gap_before_register {gap : List Char} (h : Gap (w ++ rest) gap)
    (spelled : Rule.register.Spells w) (plain : ∀ c ∈ gap.head?, Text.isBlank c = false) :
    gap = [] := by
  cases h with
  | none => rfl
  | blank blank =>
    have solid := plain _ rfl
    rcases blank with rfl | rfl | rfl <;> cases solid
  | comment mark flat stop =>
    -- Behind a comment there is a newline, and no register begins with one.
    cases spelled with
    | register letter =>
      obtain rfl := stop _ rfl
      exact absurd letter (by decide)
    | pointer first =>
      obtain rfl := stop _ rfl
      exact absurd first (by decide)

/-- The first token of a text without blanks in front is the register that the text begins with. -/
theorem first_register_iff (plain : ∀ c ∈ cs.head?, Text.isBlank c = false) :
    (scanFrom 0 cs).head?.map Token.kind = some (.register r.index) ↔
      ∃ name rest, cs = name ++ rest ∧ NameOf r name ∧ Boundary rest := by
  constructor
  · intro found
    have tiles := tiles_scanFrom 0 cs
    generalize scanFrom 0 cs = ts at tiles found
    cases tiles with
    | last => cases found
    | @token _ gap rest t ts before place munched later =>
      have kind : t.kind = .register r.index := by simpa using found
      rw [kind] at munched
      obtain ⟨name, hrest⟩ := munched_register_iff.mp munched
      have front : gap = [] := by
        refine no_gap_before_register before name.spelled fun c head => plain c ?_
        exact List.mem_head?_append_of_mem_head? head
      subst front
      exact ⟨t.text.toList, rest, rfl, name, hrest⟩
  · rintro ⟨name, rest, rfl, named, hrest⟩
    have munched := munched_register_iff.mpr ⟨named, hrest⟩
    have tiles := Tiles.first munched (tiles_scanFrom (0 + Text.byteLength name) rest)
    rw [← tiles.eq_scanFrom]
    rfl

/-! ## Reading a name -/

theorem scan_trimmed (text : String) :
    scan (String.ofList (Text.trim text.toList)) = scanFrom 0 (Text.trim text.toList) := by
  rw [scan, String.toList_ofList]

/-- A text begins with a name just if that is its first token, once the blanks have gone. -/
theorem beginsWithName_iff : BeginsWithName r text ↔
    (scanFrom 0 (Text.trim text.toList)).head?.map Token.kind = some (.register r.index) := by
  rw [first_register_iff (Text.trimmed_trim text.toList).first]
  simp only [BeginsWithName, Text.trimmed_iff, eq_comm]

/-- A text is read as the register whose name it begins with. -/
theorem registerOf_eq_ok_iff : registerOf text = .ok r ↔ BeginsWithName r text := by
  rw [beginsWithName_iff, registerOf, scan_trimmed]
  split
  · next n found =>
    have named := Register.ofNat?_eq_some_iff (n := n) (r := r)
    rw [found]
    split
    · next s same =>
      rw [same] at named
      simpa using named
    · next none =>
      rw [none] at named
      simpa using named
  · next other =>
    refine ⟨nofun, fun found => ?_⟩
    exact absurd found (other r.index)

theorem registerOf_or (text : String) : (∃ r, registerOf text = .ok r) ∨
    registerOf text = .error (.invalidRegister 0 (String.ofList (Text.trim text.toList))) := by
  unfold registerOf
  dsimp only
  split
  · split
    · exact .inl ⟨_, rfl⟩
    · exact .inr rfl
  · exact .inr rfl

/-- A text is refused just if it begins with no name, and then quoted. -/
theorem registerOf_eq_error_iff :
    registerOf text = .error e ↔ (∀ r, ¬ BeginsWithName r text) ∧ Refused text e := by
  constructor
  · intro refused
    constructor
    · intro r begins
      rw [registerOf_eq_ok_iff.mpr begins] at refused
      cases refused
    · obtain ⟨r, read⟩ | quoted := registerOf_or text
      · rw [read] at refused
        cases refused
      · rw [quoted] at refused
        cases refused
        exact ⟨_, Text.trimmed_trim _, rfl⟩
  · rintro ⟨nameless, trimmed, alone, rfl⟩
    obtain ⟨r, read⟩ | quoted := registerOf_or text
    · exact absurd (registerOf_eq_ok_iff.mp read) (nameless r)
    · rw [quoted, Text.trimmed_iff.mp alone]

/-! ## Names with something behind them -/

/-- A name is all that a text begins with, if there is none in it with a boundary behind it that is
not the end. -/
theorem beginsWithName_iff_isName (h : ∀ name c rest, Text.Trimmed text.toList (name ++ c :: rest) →
    NameOf r name → continuesWord c = true) : BeginsWithName r text ↔ IsName r text := by
  constructor
  · rintro ⟨name, rest, trimmed, named, hrest⟩
    cases rest with
    | nil =>
      rw [List.append_nil] at trimmed
      exact ⟨name, trimmed, named⟩
    | cons c rest =>
      have goes := h name c rest trimmed named
      rw [boundary_cons.mp hrest] at goes
      cases goes
  · rintro ⟨name, trimmed, named⟩
    refine ⟨name, [], ?_, named, boundary_nil⟩
    rwa [List.append_nil]

/-- A text is read as a name just if it has no name at its front with something else behind it. -/
theorem readsName_iff : ReadsName text ↔ ∀ r name c rest,
    Text.Trimmed text.toList (name ++ c :: rest) → NameOf r name → continuesWord c = true := by
  constructor
  · intro reads r name c rest trimmed named
    by_contra stops
    have begins : BeginsWithName r text :=
      ⟨name, c :: rest, trimmed, named, by simpa using stops⟩
    obtain ⟨whole, alone, spelled⟩ := (reads.accepts r).mp (registerOf_eq_ok_iff.mpr begins)
    have same : whole = name ++ c :: rest :=
      (Text.trimmed_iff.mp alone).trans (Text.trimmed_iff.mp trimmed).symm
    exact stops (spelled.continuesWord c (by simp [same]))
  · intro h
    have same : ∀ r, BeginsWithName r text ↔ IsName r text :=
      fun r => beginsWithName_iff_isName (h r)
    constructor
    · intro r
      rw [registerOf_eq_ok_iff, same]
    · intro e
      rw [registerOf_eq_error_iff]
      simp only [same]

/-- A text is read as the register whose name it begins with, and refused as a whole if there is no
such name. That is to read names of registers, but for texts with a name in front of something that
no word goes on with. -/
theorem register_names (text : String) :
    (∀ r, registerOf text = .ok r ↔ BeginsWithName r text) ∧
    (∀ e, registerOf text = .error e ↔ (∀ r, ¬ BeginsWithName r text) ∧ Refused text e) ∧
    (ReadsName text ↔ ∀ r name c rest, Text.Trimmed text.toList (name ++ c :: rest) →
      NameOf r name → continuesWord c = true) :=
  ⟨fun _ => registerOf_eq_ok_iff, fun _ => registerOf_eq_error_iff, readsName_iff⟩

/-- Of two names only the first one is read. -/
theorem name_before_another : registerOf "R1 R2" = .ok ⟨1⟩ ∧ ¬ ReadsName "R1 R2" := by
  have read : registerOf "R1 R2" = .ok ⟨1⟩ := by cbv
  refine ⟨read, fun reads => ?_⟩
  obtain ⟨name, trimmed, named⟩ := (reads.accepts ⟨1⟩).mp read
  have whole : name = ['R', '1', ' ', 'R', '2'] := by
    rw [Text.trimmed_iff.mp trimmed]
    cbv
  have blank := named.continuesWord ' ' (by simp [whole])
  cases blank

end ByteMachine.Source
