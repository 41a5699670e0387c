import Mathlib.Data.List.TakeWhile
import ByteMachine.Proofs.Source.Operands

/-
  The grammar of a line. The tokens on the first line of a text are a statement if none
  of them is stray and they are, in this order, a label with a colon behind it and a
  command, either of which may be missing. A command is a mnemonic and its operands, one
  comma between two. What is proved:

    1. `parse_eq_ok_iff`: a line is read as a statement just if it has this form, and the
       statement has the label, the opcode and the operands that stand there.
    2. `parse_eq_error_iff`: any other line is refused, for its first stray token if there
       is one, else for the leftmost token that cannot stand where it does, else for the
       comma behind its last operand.

  Places are counted from 0 behind the label: first the mnemonic, then operands and commas
  in turn.
-/

namespace ByteMachine.Source

/-! ## Lines that are statements -/

/-- The tokens of a text up to its first newline. -/
def firstLine (source : String) : List Token :=
  (Token.scan source).takeWhile (·.kind != .newline)

/-- The operand that a token stands for. -/
inductive Denotes (t : Token) : Operand → Prop
  | register {r : Register} (number : t.kind = .register r.index) : Denotes t (.register r)
  | value {v : UInt8} (number : t.kind = .decimal v.toNat ∨ t.kind = .hex v.toNat ∨
      t.kind = .binary v.toNat) : Denotes t (.immediate v)
  | label (word : t.kind = .word) : Denotes t (.label t.text)

/-- Operands with a comma before each of them. -/
inductive Further : List Token → List Operand → Prop
  | none : Further [] []
  | more {c t : Token} {ts : List Token} {x : Operand} {xs : List Operand}
      (comma : c.kind = .comma) (operand : Denotes t x) (rest : Further ts xs) :
      Further (c :: t :: ts) (x :: xs)

/-- Operands with a comma between two of them. -/
inductive Separated : List Token → List Operand → Prop
  | none : Separated [] []
  | some {t : Token} {ts : List Token} {x : Operand} {xs : List Operand}
      (operand : Denotes t x) (further : Further ts xs) : Separated (t :: ts) (x :: xs)

/-- Whether the word names the opcode, in whatever case. -/
def Names (name : String) (op : Opcode) : Prop := Text.sameLetters op.mnemonic name = true

/-- A mnemonic and its operands, or nothing. -/
inductive CommandForm : List Token → Option Command → Prop
  | nothing : CommandForm [] none
  | command {m : Token} {ts : List Token} {op : Opcode} {xs : List Operand} (word : m.kind = .word)
      (names : Names m.text op) (operands : Separated ts xs) : CommandForm (m :: ts) (some ⟨op, xs⟩)

/-- A label with a colon, or none, and a command. -/
inductive LineForm : List Token → Option String → Option Command → Prop
  | plain {ts : List Token} {command : Option Command} (rest : CommandForm ts command) :
      LineForm ts none command
  | labelled {l colon : Token} {ts : List Token} {command : Option Command} (word : l.kind = .word)
      (mark : colon.kind = .colon) (rest : CommandForm ts command) :
      LineForm (l :: colon :: ts) (some l.text) command

/-! ## Lines that are refused -/

/-- What is expected at a place. -/
inductive Role where
  | mnemonic
  | operand
  | comma
  deriving DecidableEq, Repr

/-- What is expected at place `k` behind the label. -/
def roleAt : Nat → Role
  | 0 => .mnemonic
  | 1 => .operand
  | 2 => .comma
  | k + 3 => roleAt (k + 1)

/-- Why a token cannot stand where something is expected. -/
inductive Offends (line : Nat) (t : Token) : Role → SourceError → Prop
  | instruction (other : t.kind ≠ .word) :
      Offends line t .mnemonic (.malformed line (t.start + 1) (.expectedInstruction t.text))
  | unknown (word : t.kind = .word) (none : ∀ op, ¬ Names t.text op) :
      Offends line t .mnemonic (.unknownInstruction line t.text)
  | register {n : Nat} (number : t.kind = .register n) (large : 7 < n) :
      Offends line t .operand (.invalidRegister line t.text)
  | value {v : Nat} (number : t.kind = .decimal v ∨ t.kind = .hex v ∨ t.kind = .binary v)
      (large : 255 < v) : Offends line t .operand (.invalidImmediate line t.text)
  | mark (punctuation : t.kind = .comma ∨ t.kind = .colon) :
      Offends line t .operand (.malformed line (t.start + 1) (.unexpectedToken t.text))
  | other (different : t.kind ≠ .comma) :
      Offends line t .comma (.malformed line (t.start + 1) (.unexpectedToken t.text))

/-- What is wrong with the token at place `k` of the tokens behind a label, of which the first
stands at place `start`. -/
def OffenceAt (line start : Nat) (ts : List Token) (k : Nat) (e : SourceError) : Prop :=
  ∃ t, ts[k]? = some t ∧ Offends line t (roleAt (k + start)) e

/-- What is wrong with the leftmost token that cannot stand where it does. -/
def Leftmost (line start : Nat) (ts : List Token) (e : SourceError) : Prop :=
  ∃ k, FirstAt (OffenceAt line start ts) k e

/-- Whether the tokens do not begin with a label. -/
def Bare (ts : List Token) : Prop :=
  ∀ l colon rest, ts = l :: colon :: rest → l.kind = .word → colon.kind ≠ .colon

/-- The tokens behind the label, or all of them if there is no label. -/
inductive Behind : List Token → List Token → Prop
  | label {l colon : Token} {ts : List Token} (word : l.kind = .word) (mark : colon.kind = .colon) :
      Behind (l :: colon :: ts) ts
  | unlabelled {ts : List Token} (bare : Bare ts) : Behind ts ts

/-- Why the first line of a text is no statement. -/
inductive Rejected (line : Nat) (source : String) : SourceError → Prop
  | stray {before after : List Token} {t : Token} (found : firstLine source = before ++ t :: after)
      (kind : t.kind = .stray) (first : ∀ u ∈ before, u.kind ≠ .stray) :
      Rejected line source (.malformed line (t.start + 1) (.unexpectedInput t.text))
  | misplaced {ts : List Token} {e : SourceError} (clean : ∀ t ∈ firstLine source, t.kind ≠ .stray)
      (behind : Behind (firstLine source) ts) (leftmost : Leftmost line 0 ts e) :
      Rejected line source e
  | trailing {ts : List Token} {c : Token} {label : Option String} {op : Opcode} {x : Operand}
      {xs : List Operand} (clean : ∀ t ∈ firstLine source, t.kind ≠ .stray)
      (found : firstLine source = ts ++ [c]) (comma : c.kind = .comma)
      (form : LineForm ts label (some ⟨op, x :: xs⟩)) :
      Rejected line source (.malformed line (Statement.trimmedLength source) .trailingComma)

/-! ## Operands -/

section Operands
variable {line start : Nat} {t c : Token} {ts : List Token} {x : Operand} {xs : List Operand}
  {e : SourceError}

theorem byte_eq_ok_iff {v : Nat} :
    (if v < 256 then .ok (.immediate (UInt8.ofNat v)) else .error e : Except SourceError Operand)
      = .ok x ↔ ∃ b : UInt8, v = b.toNat ∧ x = .immediate b := by
  constructor
  · intro h
    split at h
    · next small =>
      cases h
      exact ⟨UInt8.ofNat v, (UInt8.toNat_ofNat_of_lt' small).symm, rfl⟩
    · cases h
  · rintro ⟨b, rfl, rfl⟩
    rw [if_pos b.toNat_lt, UInt8.ofNat_toNat]

theorem byte_eq_error_iff {v : Nat} {d : SourceError} :
    (if v < 256 then .ok (.immediate (UInt8.ofNat v)) else .error d : Except SourceError Operand)
      = .error e ↔ 255 < v ∧ e = d := by
  split
  · next small => simp [Nat.not_lt.mpr (Nat.le_of_lt_succ small)]
  · next large => simp [show 255 < v by omega, eq_comm]

theorem parseOperand_eq_ok_iff : Statement.parseOperand line t = .ok x ↔ Denotes t x := by
  obtain ⟨kind, text, start⟩ := t
  cases kind with
  | register n =>
    simp only [Statement.parseOperand]
    constructor
    · intro h
      split at h
      · next r found =>
        cases h
        exact .register (congrArg Kind.register (Register.ofNat?_eq_some_iff.mp found))
      · cases h
    · rintro (number | number | word)
      · cases number
        rw [Register.ofNat?_index]
      · simp at number
      · cases word
  | decimal v | hex v | binary v =>
    simp only [Statement.parseOperand, byte_eq_ok_iff]
    constructor
    · rintro ⟨b, rfl, rfl⟩
      exact .value (by simp)
    · rintro (number | number | word)
      · cases number
      · exact ⟨_, by simpa using number, rfl⟩
      · cases word
  | word =>
    constructor
    · intro h
      cases h
      exact .label rfl
    · rintro (number | number | word)
      · cases number
      · simp at number
      · rfl
  | comma | colon | newline | stray =>
    constructor
    · intro h
      cases h
    · rintro (number | number | word)
      · cases number
      · simp at number
      · cases word

theorem parseOperand_eq_error_iff (stray : t.kind ≠ .stray) (newline : t.kind ≠ .newline) :
    Statement.parseOperand line t = .error e ↔ Offends line t .operand e := by
  obtain ⟨kind, text, start⟩ := t
  cases kind with
  | register n =>
    simp only [Statement.parseOperand]
    constructor
    · intro h
      split at h
      · cases h
      · next absent =>
        cases h
        exact .register rfl (Register.ofNat?_eq_none_iff.mp absent)
    · intro h
      cases h with
      | register number large =>
        cases number
        rw [Register.ofNat?_eq_none_iff.mpr large]
      | value number => simp at number
      | mark punctuation => simp at punctuation
  | decimal v | hex v | binary v =>
    simp only [Statement.parseOperand, byte_eq_error_iff]
    constructor
    · rintro ⟨large, rfl⟩
      exact .value (by simp) large
    · intro h
      cases h with
      | register number => cases number
      | value number large => exact ⟨by simp_all, rfl⟩
      | mark punctuation => simp at punctuation
  | word =>
    refine iff_of_false nofun fun h => ?_
    cases h with
    | register number => cases number
    | value number => simp at number
    | mark punctuation => simp at punctuation
  | comma | colon =>
    constructor
    · intro h
      cases h
      exact .mark (by simp)
    · intro h
      cases h with
      | register number => cases number
      | value number => simp at number
      | mark => rfl
  | newline => exact absurd rfl newline
  | stray => exact absurd rfl stray

/-- A token that is no newline and not stray stands for an operand or is out of place as one. -/
theorem exists_denotes_iff (stray : t.kind ≠ .stray) (newline : t.kind ≠ .newline) :
    (∃ x, Denotes t x) ↔ ∀ d, ¬ Offends line t .operand d := by
  rw [fits_iff_of_error_iff fun d => parseOperand_eq_error_iff stray newline]
  exact exists_congr fun x => parseOperand_eq_ok_iff.symm

/-! ## Lists of operands -/

theorem not_leftmost_nil : ¬ Leftmost line start [] e := by
  rintro ⟨k, ⟨t, here, -⟩, -⟩
  simp at here

/-- The leftmost token out of place is the first one, or one behind it if that is in place. -/
theorem leftmost_cons : Leftmost line start (t :: ts) e ↔ Offends line t (roleAt start) e ∨
    (∀ d, ¬ Offends line t (roleAt start) d) ∧ Leftmost line (start + 1) ts e := by
  have zero : ∀ d, OffenceAt line start (t :: ts) 0 d ↔ Offends line t (roleAt start) d := by
    intro d
    simp [OffenceAt]
  have succ : (fun k => OffenceAt line start (t :: ts) (k + 1)) = OffenceAt line (start + 1) ts := by
    funext k d
    simp only [OffenceAt, List.getElem?_cons_succ, Nat.add_assoc, Nat.add_comm 1 start]
  rw [Leftmost, exists_firstAt_iff, succ, Leftmost]
  simp only [zero]

/-- Behind a comma the operands are read as at the front. -/
theorem parseFurther_cons_cons (line last : Nat) (c t : Token) (ts : List Token) :
    Statement.parseFurther line last (c :: t :: ts) =
      if c.kind = .comma then Statement.parseOperands line last (t :: ts)
      else .error (Statement.unexpected line c) := rfl

theorem further_cons_cons : Further (c :: t :: ts) xs ↔ c.kind = .comma ∧ Separated (t :: ts) xs := by
  constructor
  · intro h
    cases h with
    | more comma operand rest => exact ⟨comma, .some operand rest⟩
  · rintro ⟨comma, h⟩
    cases h with
    | some operand rest => exact .more comma operand rest

theorem parseOperands_cons_eq_ok_iff {last : Nat}
    (rest : ∀ xs, Statement.parseFurther line last ts = .ok xs ↔ Further ts xs) :
    Statement.parseOperands line last (t :: ts) = .ok xs ↔ Separated (t :: ts) xs := by
  rw [Statement.parseOperands]
  constructor
  · intro h
    obtain ⟨x, operand, h⟩ := bind_eq_ok_iff.mp h
    obtain ⟨xs, further, h⟩ := bind_eq_ok_iff.mp h
    cases h
    exact .some (parseOperand_eq_ok_iff.mp operand) ((rest xs).mp further)
  · intro h
    cases h with
    | some operand further =>
      rw [parseOperand_eq_ok_iff.mpr operand, ok_bind, (rest _).mpr further]
      rfl

theorem parseFurther_eq_ok_iff {last : Nat} : ∀ {ts : List Token} {xs : List Operand},
    Statement.parseFurther line last ts = .ok xs ↔ Further ts xs
  | [], xs => by
    constructor
    · intro h
      cases h
      exact .none
    · intro h
      cases h
      rfl
  | [c], xs => by
    refine iff_of_false (fun h => ?_) nofun
    unfold Statement.parseFurther at h
    split at h <;> cases h
  | c :: t :: ts, xs => by
    rw [parseFurther_cons_cons, further_cons_cons]
    split
    · next comma =>
      rw [parseOperands_cons_eq_ok_iff fun _ => parseFurther_eq_ok_iff, and_iff_right comma]
    · next other => exact iff_of_false nofun fun h => other h.1

theorem parseOperands_eq_ok_iff {last : Nat} :
    Statement.parseOperands line last ts = .ok xs ↔ Separated ts xs := by
  cases ts with
  | nil =>
    constructor
    · intro h
      cases h
      exact .none
    · intro h
      cases h
      rfl
  | cons t ts => exact parseOperands_cons_eq_ok_iff fun _ => parseFurther_eq_ok_iff

/-! ## Operands that are refused -/

theorem offends_comma_iff : Offends line t .comma e ↔
    t.kind ≠ .comma ∧ e = .malformed line (t.start + 1) (.unexpectedToken t.text) := by
  constructor
  · intro h
    cases h with
    | other different => exact ⟨different, rfl⟩
  · rintro ⟨different, rfl⟩
    exact .other different

/-- Whether the tokens are at least one operand, a comma between two, and a comma at the end. -/
def EndsInComma (ts : List Token) : Prop :=
  ∃ front c x xs, ts = front ++ [c] ∧ c.kind = .comma ∧ Separated front (x :: xs)

/-- Whether the tokens go on with operands behind an operand, and there is a comma at the end. -/
def GoesOnToComma (ts : List Token) : Prop :=
  ∃ front c xs, ts = front ++ [c] ∧ c.kind = .comma ∧ Further front xs

theorem not_goesOnToComma_nil : ¬ GoesOnToComma [] := by
  rintro ⟨front, c, -, whole, -⟩
  simp at whole

theorem goesOnToComma_singleton : GoesOnToComma [c] ↔ c.kind = .comma := by
  constructor
  · rintro ⟨front, d, xs, whole, comma, form⟩
    cases form with
    | none =>
      cases whole
      exact comma
    | more => simp at whole
  · exact fun comma => ⟨[], c, [], rfl, comma, .none⟩

theorem goesOnToComma_cons_cons :
    GoesOnToComma (c :: t :: ts) ↔ c.kind = .comma ∧ EndsInComma (t :: ts) := by
  constructor
  · rintro ⟨front, d, xs, whole, comma, form⟩
    cases form with
    | none => simp at whole
    | more first operand rest =>
      simp only [List.cons_append, List.cons.injEq] at whole
      obtain ⟨rfl, rfl, whole⟩ := whole
      exact ⟨first, _ :: _, d, _, _, congrArg (t :: ·) whole, comma, .some operand rest⟩
  · rintro ⟨first, front, d, x, xs, whole, comma, form⟩
    exact ⟨c :: front, d, x :: xs, congrArg (c :: ·) whole, comma, by
      cases form with
      | some operand rest => exact .more first operand rest⟩

theorem endsInComma_cons :
    EndsInComma (t :: ts) ↔ (∃ x, Denotes t x) ∧ GoesOnToComma ts := by
  constructor
  · rintro ⟨front, c, x, xs, whole, comma, form⟩
    cases form with
    | some operand rest =>
      simp only [List.cons_append, List.cons.injEq] at whole
      obtain ⟨rfl, whole⟩ := whole
      exact ⟨⟨x, operand⟩, _, c, xs, whole, comma, rest⟩
  · rintro ⟨⟨x, operand⟩, front, c, xs, rfl, comma, rest⟩
    exact ⟨t :: front, c, x, xs, rfl, comma, .some operand rest⟩

/-- Whether all tokens are such as stand on a line none of whose tokens is stray. -/
def Proper (ts : List Token) : Prop := ∀ t ∈ ts, t.kind ≠ .stray ∧ t.kind ≠ .newline

theorem Proper.tail (h : Proper (t :: ts)) : Proper ts :=
  fun u mem => h u (List.mem_cons_of_mem t mem)

theorem parseOperands_cons_eq_error_iff {last : Nat} (proper : Proper (t :: ts))
    (rest : Statement.parseFurther line last ts = .error e ↔ Leftmost line 2 ts e ∨
      GoesOnToComma ts ∧ e = .malformed line last .trailingComma) :
    Statement.parseOperands line last (t :: ts) = .error e ↔ Leftmost line 1 (t :: ts) e ∨
      EndsInComma (t :: ts) ∧ e = .malformed line last .trailingComma := by
  obtain ⟨stray, newline⟩ := proper t List.mem_cons_self
  have fine : (∃ x, Denotes t x) ↔ ∀ d, ¬ Offends line t .operand d :=
    exists_denotes_iff stray newline
  have first : Leftmost line 1 (t :: ts) e ↔ Offends line t .operand e ∨
      (∃ x, Denotes t x) ∧ Leftmost line 2 ts e := by
    rw [fine]
    exact leftmost_cons
  rw [Statement.parseOperands, bind_eq_error_iff, parseOperand_eq_error_iff stray newline, first,
    endsInComma_cons]
  simp only [parseOperand_eq_ok_iff, bind_eq_error_iff, rest]
  constructor
  · rintro (wrong | ⟨x, denoted, (wrong | ⟨ends, rfl⟩) | ⟨xs, -, none⟩⟩)
    · exact .inl (.inl wrong)
    · exact .inl (.inr ⟨⟨x, denoted⟩, wrong⟩)
    · exact .inr ⟨⟨⟨x, denoted⟩, ends⟩, rfl⟩
    · cases none
  · rintro ((wrong | ⟨⟨x, denoted⟩, wrong⟩) | ⟨⟨⟨x, denoted⟩, ends⟩, rfl⟩)
    · exact .inl wrong
    · exact .inr ⟨x, denoted, .inl (.inl wrong)⟩
    · exact .inr ⟨x, denoted, .inl (.inr ⟨ends, rfl⟩)⟩

theorem parseFurther_eq_error_iff {last : Nat} : ∀ {ts : List Token}, Proper ts →
    (Statement.parseFurther line last ts = .error e ↔ Leftmost line 2 ts e ∨
      GoesOnToComma ts ∧ e = .malformed line last .trailingComma)
  | [], _ => by
    refine iff_of_false nofun ?_
    rintro (wrong | ⟨comma, -⟩)
    · exact not_leftmost_nil wrong
    · exact not_goesOnToComma_nil comma
  | [c], _ => by
    have only : Leftmost line 2 [c] e ↔ Offends line c .comma e := by
      rw [leftmost_cons, or_iff_left fun h => not_leftmost_nil h.2]
      rfl
    rw [Statement.parseFurther, only, offends_comma_iff, goesOnToComma_singleton]
    split
    · next comma => simp [comma, eq_comm]
    · next other => simp [other, eq_comm, Statement.unexpected, Statement.column]
  | c :: t :: ts, proper => by
    -- What is expected behind the comma is what was expected at the front.
    have first : Leftmost line 2 (c :: t :: ts) e ↔ Offends line c .comma e ∨
        (∀ d, ¬ Offends line c .comma d) ∧ Leftmost line 1 (t :: ts) e := leftmost_cons
    rw [parseFurther_cons_cons, first, goesOnToComma_cons_cons]
    simp only [offends_comma_iff]
    split
    · next comma =>
      rw [parseOperands_cons_eq_error_iff proper.tail (parseFurther_eq_error_iff proper.tail.tail)]
      simp [comma]
    · next other => simp [other, eq_comm, Statement.unexpected, Statement.column]

theorem parseOperands_eq_error_iff {last : Nat} (proper : Proper ts) :
    Statement.parseOperands line last ts = .error e ↔ Leftmost line 1 ts e ∨
      EndsInComma ts ∧ e = .malformed line last .trailingComma := by
  cases ts with
  | nil =>
    refine iff_of_false nofun ?_
    rintro (wrong | ⟨⟨front, c, x, xs, whole, -⟩, -⟩)
    · exact not_leftmost_nil wrong
    · simp at whole
  | cons t ts =>
    exact parseOperands_cons_eq_error_iff proper (parseFurther_eq_error_iff proper.tail)

end Operands

/-! ## Commands and labels -/

/-- No two opcodes have names that differ in case only. -/
theorem Names.unique {name : String} {op op' : Opcode} (h : Names name op) (h' : Names name op') :
    op = op' := by
  have same := (Text.sameLetters_iff.mp h).trans (Text.sameLetters_iff.mp h').symm
  have apart : ∀ o ∈ Opcode.all, ∀ o' ∈ Opcode.all,
      o.mnemonic.toList.map Char.toLower = o'.mnemonic.toList.map Char.toLower → o = o' := by
    decide +kernel
  exact apart op op.mem_all op' op'.mem_all same

theorem ofMnemonic?_eq_some_iff {name : String} {op : Opcode} :
    Opcode.ofMnemonic? name = some op ↔ Names name op := by
  have names_of_found : ∀ {op}, Opcode.ofMnemonic? name = some op → Names name op :=
    fun found => List.find?_some (p := fun o : Opcode => Text.sameLetters o.mnemonic name) found
  constructor
  · exact names_of_found
  · intro names
    cases found : Opcode.ofMnemonic? name with
    | none => exact absurd names (List.find?_eq_none.mp found op op.mem_all)
    | some op' => rw [names.unique (names_of_found found)]

theorem ofMnemonic?_eq_none_iff {name : String} :
    Opcode.ofMnemonic? name = none ↔ ∀ op, ¬ Names name op := by
  rw [Opcode.ofMnemonic?, List.find?_eq_none]
  exact ⟨fun none op => none op op.mem_all, fun none op _ => none op⟩

section Commands
variable {line last : Nat} {ts : List Token} {e : SourceError}

theorem parseCommand_eq_ok_iff {command : Option Command} :
    Statement.parseCommand line last ts = .ok command ↔ CommandForm ts command := by
  cases ts with
  | nil =>
    constructor
    · intro h
      cases h
      exact .nothing
    · intro h
      cases h
      rfl
  | cons m ts =>
    rw [Statement.parseCommand]
    constructor
    · intro h
      split at h
      · next word =>
        split at h
        · cases h
        · next op found =>
          obtain ⟨xs, operands, h⟩ := bind_eq_ok_iff.mp h
          cases h
          exact .command word (ofMnemonic?_eq_some_iff.mp found) (parseOperands_eq_ok_iff.mp operands)
      · cases h
    · intro h
      cases h with
      | command word names operands =>
        rw [if_pos word, ofMnemonic?_eq_some_iff.mpr names]
        simp only [parseOperands_eq_ok_iff.mpr operands, ok_bind, pure_eq_ok]

/-- A token that names an opcode is in place as a mnemonic, and no other one is. -/
theorem exists_names_iff {m : Token} :
    (m.kind = .word ∧ ∃ op, Names m.text op) ↔ ∀ d, ¬ Offends line m .mnemonic d := by
  constructor
  · rintro ⟨word, op, names⟩ d wrong
    cases wrong with
    | instruction other => exact other word
    | unknown _ none => exact none op names
  · intro fine
    by_contra absent
    by_cases word : m.kind = .word
    · exact fine _ (.unknown word fun op names => absent ⟨word, op, names⟩)
    · exact fine _ (.instruction word)

/-- Whether the tokens are a command with an operand at least, and a comma behind it. -/
def CommandComma (ts : List Token) : Prop :=
  ∃ front c op x xs, ts = front ++ [c] ∧ c.kind = .comma ∧ CommandForm front (some ⟨op, x :: xs⟩)

theorem commandComma_cons {m : Token} : CommandComma (m :: ts) ↔
    (m.kind = .word ∧ ∃ op, Names m.text op) ∧ EndsInComma ts := by
  constructor
  · rintro ⟨front, c, op, x, xs, whole, comma, form⟩
    cases form with
    | command word names operands =>
      simp only [List.cons_append, List.cons.injEq] at whole
      obtain ⟨rfl, whole⟩ := whole
      exact ⟨⟨word, op, names⟩, _, c, x, xs, whole, comma, operands⟩
  · rintro ⟨⟨word, op, names⟩, front, c, x, xs, rfl, comma, operands⟩
    exact ⟨m :: front, c, op, x, xs, rfl, comma, .command word names operands⟩

theorem parseCommand_eq_error_iff (proper : Proper ts) :
    Statement.parseCommand line last ts = .error e ↔ Leftmost line 0 ts e ∨
      CommandComma ts ∧ e = .malformed line last .trailingComma := by
  cases ts with
  | nil =>
    refine iff_of_false nofun ?_
    rintro (wrong | ⟨⟨front, c, op, x, xs, whole, -⟩, -⟩)
    · exact not_leftmost_nil wrong
    · simp at whole
  | cons m ts =>
    have first : Leftmost line 0 (m :: ts) e ↔ Offends line m .mnemonic e ∨
        (m.kind = .word ∧ ∃ op, Names m.text op) ∧ Leftmost line 1 ts e := by
      have fine : (m.kind = .word ∧ ∃ op, Names m.text op) ↔
        ∀ d, ¬ Offends line m .mnemonic d := exists_names_iff
      rw [fine]
      exact leftmost_cons
    rw [Statement.parseCommand, first, commandComma_cons]
    split
    · next word =>
      split
      · next absent =>
        have none := ofMnemonic?_eq_none_iff.mp absent
        have wrong : Offends line m .mnemonic e ↔ e = .unknownInstruction line m.text := by
          constructor
          · intro h
            cases h with
            | instruction other => exact absurd word other
            | unknown _ _ => rfl
          · rintro rfl
            exact .unknown word none
        simp [wrong, none, eq_comm]
      · next op found =>
        have names := ofMnemonic?_eq_some_iff.mp found
        have fine : ¬ Offends line m .mnemonic e := exists_names_iff.mp ⟨word, op, names⟩ e
        have present : m.kind = .word ∧ ∃ op, Names m.text op := ⟨word, op, names⟩
        rw [bind_eq_error_iff, parseOperands_eq_error_iff proper.tail, and_iff_right present,
          and_iff_right present, or_iff_right fine, or_iff_left]
        rintro ⟨xs, -, none⟩
        cases none
    · next other =>
      have wrong : Offends line m .mnemonic e ↔
          e = .malformed line (m.start + 1) (.expectedInstruction m.text) := by
        constructor
        · intro h
          cases h with
          | instruction => rfl
          | unknown word _ => exact absurd word other
        · rintro rfl
          exact .instruction other
      simp [wrong, other, eq_comm, Statement.column]

end Commands

section Labels
variable {ts us : List Token} {label : Option String} {command : Option Command}

theorem splitLabel_of_label {l colon : Token} (word : l.kind = .word) (mark : colon.kind = .colon) :
    Statement.splitLabel (l :: colon :: ts) = (some l.text, ts) := if_pos ⟨word, mark⟩

theorem splitLabel_of_bare (bare : Bare ts) : Statement.splitLabel ts = (none, ts) := by
  unfold Statement.splitLabel
  split
  · next l colon rest => exact if_neg fun both => bare l colon rest rfl both.1 both.2
  · rfl

/-- Tokens begin with a label or do not. -/
theorem label_or_bare (ts : List Token) :
    (∃ l colon us, ts = l :: colon :: us ∧ l.kind = .word ∧ colon.kind = .colon) ∨ Bare ts := by
  by_cases labelled : ∃ l colon us, ts = l :: colon :: us ∧ l.kind = .word ∧ colon.kind = .colon
  · exact .inl labelled
  · exact .inr fun l colon us whole word mark => labelled ⟨l, colon, us, whole, word, mark⟩

theorem behind_iff : Behind ts us ↔ us = (Statement.splitLabel ts).2 := by
  constructor
  · intro h
    cases h with
    | label word mark => rw [splitLabel_of_label word mark]
    | unlabelled bare => rw [splitLabel_of_bare bare]
  · rintro rfl
    obtain ⟨l, colon, us, rfl, word, mark⟩ | bare := label_or_bare ts
    · rw [splitLabel_of_label word mark]
      exact .label word mark
    · rw [splitLabel_of_bare bare]
      exact .unlabelled bare

/-- A command does not begin like a label, whatever stands behind it. -/
theorem CommandForm.bare (h : CommandForm ts command) (some : command ≠ none) {us : List Token}
    (behind : ∀ t ∈ us.head?, t.kind ≠ .colon) : Bare (ts ++ us) := by
  intro l colon rest whole _ mark
  cases h with
  | nothing => exact some rfl
  | command _ _ operands =>
    cases operands with
    | none =>
      cases us with
      | nil => cases whole
      | cons t us =>
        cases whole
        exact behind _ rfl mark
    | some operand _ =>
      cases whole
      cases operand with
      | register number => simp [mark] at number
      | value number => simp [mark] at number
      | label word => simp [mark] at word

theorem lineForm_iff : LineForm ts label command ↔
    label = (Statement.splitLabel ts).1 ∧ CommandForm (Statement.splitLabel ts).2 command := by
  constructor
  · intro h
    cases h with
    | plain rest =>
      have bare : Bare ts := by
        cases rest with
        | nothing => exact nofun
        | command word names operands =>
          rw [← List.append_nil (_ :: _)]
          exact (CommandForm.command word names operands).bare (by simp) (by simp)
      rw [splitLabel_of_bare bare]
      exact ⟨rfl, rest⟩
    | labelled word mark rest =>
      rw [splitLabel_of_label word mark]
      exact ⟨rfl, rest⟩
  · obtain ⟨l, colon, us, rfl, word, mark⟩ | bare := label_or_bare ts
    · rw [splitLabel_of_label word mark]
      rintro ⟨rfl, rest⟩
      exact .labelled word mark rest
    · rw [splitLabel_of_bare bare]
      rintro ⟨rfl, rest⟩
      exact .plain rest

/-- A line with a comma behind its operands has it there behind the label, too. -/
theorem commandComma_behind_iff : CommandComma (Statement.splitLabel ts).2 ↔
    ∃ front c label op x xs, ts = front ++ [c] ∧ c.kind = .comma ∧
      LineForm front label (some ⟨op, x :: xs⟩) := by
  constructor
  · rintro ⟨front, c, op, x, xs, whole, comma, form⟩
    obtain ⟨l, colon, us, rfl, word, mark⟩ | bare := label_or_bare ts
    · rw [splitLabel_of_label word mark] at whole
      dsimp only at whole
      subst whole
      exact ⟨l :: colon :: front, c, _, op, x, xs, rfl, comma, .labelled word mark form⟩
    · rw [splitLabel_of_bare bare] at whole
      exact ⟨front, c, _, op, x, xs, whole, comma, .plain form⟩
  · rintro ⟨front, c, label, op, x, xs, rfl, comma, form⟩
    cases form with
    | plain rest =>
      have bare : Bare (front ++ [c]) := rest.bare (by simp) (by simp [comma])
      rw [splitLabel_of_bare bare]
      exact ⟨front, c, op, x, xs, rfl, comma, rest⟩
    | labelled word mark rest =>
      rw [List.cons_append, List.cons_append, splitLabel_of_label word mark]
      exact ⟨_, c, op, x, xs, rfl, comma, rest⟩

end Labels

/-! ## Lines -/

section Lines
variable {line : Nat} {source : String}

theorem lineTokens_eq (line : Nat) (source : String) : Statement.lineTokens line source =
    match (firstLine source).find? (·.kind == .stray) with
    | some t => .error (.malformed line (t.start + 1) (.unexpectedInput t.text))
    | none => .ok (firstLine source) := rfl

theorem lineTokens_of_clean (clean : ∀ t ∈ firstLine source, t.kind ≠ .stray) :
    Statement.lineTokens line source = .ok (firstLine source) := by
  have none : (firstLine source).find? (·.kind == .stray) = none :=
    List.find?_eq_none.mpr fun t mem => by simpa using clean t mem
  rw [lineTokens_eq, none]

/-- The first stray token, where there is one. -/
theorem lineTokens_of_stray {before after : List Token} {t : Token}
    (found : firstLine source = before ++ t :: after) (kind : t.kind = .stray)
    (first : ∀ u ∈ before, u.kind ≠ .stray) :
    Statement.lineTokens line source =
      .error (.malformed line (t.start + 1) (.unexpectedInput t.text)) := by
  have some : (firstLine source).find? (·.kind == .stray) = some t :=
    List.find?_eq_some_iff_append.mpr
      ⟨by simpa using kind, before, after, found, fun u mem => by simpa using first u mem⟩
  rw [lineTokens_eq, some]

theorem clean_or_stray (source : String) : (∀ t ∈ firstLine source, t.kind ≠ .stray) ∨
    ∃ before t after, firstLine source = before ++ t :: after ∧ t.kind = .stray ∧
      ∀ u ∈ before, u.kind ≠ .stray := by
  cases found : (firstLine source).find? (·.kind == .stray) with
  | none =>
    refine .inl fun t mem => ?_
    simpa using List.find?_eq_none.mp found t mem
  | some t =>
    obtain ⟨kind, before, after, whole, first⟩ := List.find?_eq_some_iff_append.mp found
    refine .inr ⟨before, t, after, whole, by simpa using kind, fun u mem => ?_⟩
    simpa using first u mem

theorem not_newline_of_mem_firstLine {t : Token} (mem : t ∈ firstLine source) :
    t.kind ≠ .newline := by
  simpa using List.mem_takeWhile_imp mem

theorem parse_eq_ok_iff {s : Statement} : Statement.parse line source = .ok s ↔
    (∀ t ∈ firstLine source, t.kind ≠ .stray) ∧ s.line = line ∧
      LineForm (firstLine source) s.label s.command := by
  obtain ⟨number, label, command⟩ := s
  obtain clean | ⟨before, t, after, found, kind, first⟩ := clean_or_stray source
  · rw [Statement.parse, lineTokens_of_clean clean, ok_bind, and_iff_right clean, lineForm_iff,
      ← parseCommand_eq_ok_iff, bind_eq_ok_iff]
    constructor
    · rintro ⟨c, parsed, same⟩
      cases same
      exact ⟨rfl, rfl, parsed⟩
    · rintro ⟨rfl, rfl, parsed⟩
      exact ⟨command, parsed, rfl⟩
  · rw [Statement.parse, lineTokens_of_stray found kind first]
    refine iff_of_false nofun fun h => h.1 t ?_ kind
    rw [found]
    exact List.mem_append_right before List.mem_cons_self

theorem parse_eq_error_iff {e : SourceError} :
    Statement.parse line source = .error e ↔ Rejected line source e := by
  obtain clean | ⟨before, t, after, found, kind, first⟩ := clean_or_stray source
  · have proper : Proper (Statement.splitLabel (firstLine source)).2 := by
      intro t mem
      have inside : t ∈ firstLine source := by
        obtain ⟨l, colon, us, whole, word, mark⟩ | bare := label_or_bare (firstLine source)
        · rw [whole, splitLabel_of_label word mark] at mem
          rw [whole]
          exact List.mem_cons_of_mem l (List.mem_cons_of_mem colon mem)
        · rwa [splitLabel_of_bare bare] at mem
      exact ⟨clean t inside, not_newline_of_mem_firstLine inside⟩
    have parsed : Statement.parse line source = .error e ↔
        Statement.parseCommand line (Statement.trimmedLength source)
          (Statement.splitLabel (firstLine source)).2 = .error e := by
      rw [Statement.parse, lineTokens_of_clean clean, ok_bind, bind_eq_error_iff, or_iff_left]
      rintro ⟨c, -, none⟩
      cases none
    rw [parsed, parseCommand_eq_error_iff proper, commandComma_behind_iff]
    constructor
    · rintro (leftmost | ⟨⟨front, c, label, op, x, xs, whole, comma, form⟩, rfl⟩)
      · exact .misplaced clean (behind_iff.mpr rfl) leftmost
      · exact .trailing clean whole comma form
    · intro h
      cases h with
      | stray found kind _ =>
        refine absurd kind (clean _ ?_)
        rw [found]
        exact List.mem_append_right _ List.mem_cons_self
      | misplaced _ behind leftmost =>
        rw [behind_iff.mp behind] at leftmost
        exact .inl leftmost
      | trailing _ whole comma form => exact .inr ⟨⟨_, _, _, _, _, _, whole, comma, form⟩, rfl⟩
  · have refused : Statement.parse line source =
        .error (.malformed line (t.start + 1) (.unexpectedInput t.text)) := by
      rw [Statement.parse, lineTokens_of_stray found kind first]
      rfl
    have here : t ∈ firstLine source := by
      rw [found]
      exact List.mem_append_right before List.mem_cons_self
    rw [refused]
    constructor
    · intro h
      cases h
      exact .stray found kind first
    · intro h
      cases h with
      | stray found' kind' first' =>
        have same : Statement.lineTokens line source = .error _ :=
          lineTokens_of_stray found' kind' first'
        rw [lineTokens_of_stray found kind first] at same
        exact congrArg Except.error (Except.error.inj same)
      | misplaced clean | trailing clean => exact absurd kind (clean t here)

end Lines

/-- The first line of a text is read just if its tokens have the form of a line, and says what
stands there. Otherwise it is refused: for its first stray token, if there is one; else for the
leftmost token that cannot stand where it does; else for a comma behind its operands, which is what
is reported just then. -/
theorem line_grammar (line : Nat) (source : String) :
    (∀ s, Statement.parse line source = .ok s ↔
      (∀ t ∈ firstLine source, t.kind ≠ .stray) ∧ s.line = line ∧
        LineForm (firstLine source) s.label s.command) ∧
    (∀ e, Statement.parse line source = .error e ↔ Rejected line source e) ∧
    ((∃ column, Statement.parse line source = .error (.malformed line column .trailingComma)) ↔
      (∀ t ∈ firstLine source, t.kind ≠ .stray) ∧
        ∃ ts c label op x xs, firstLine source = ts ++ [c] ∧ c.kind = .comma ∧
          LineForm ts label (some ⟨op, x :: xs⟩)) := by
  refine ⟨fun s => parse_eq_ok_iff, fun e => parse_eq_error_iff, ?_⟩
  constructor
  · rintro ⟨column, h⟩
    cases parse_eq_error_iff.mp h with
    | misplaced _ _ leftmost =>
      obtain ⟨k, ⟨t, -, wrong⟩, -⟩ := leftmost
      generalize roleAt (k + 0) = role at wrong
      cases wrong
    | trailing clean whole comma form => exact ⟨clean, _, _, _, _, _, _, whole, comma, form⟩
  · rintro ⟨clean, ts, c, label, op, x, xs, whole, comma, form⟩
    exact ⟨_, parse_eq_error_iff.mpr (.trailing clean whole comma form)⟩

/-- A mnemonic with a colon behind it is a label, so the register stands where a mnemonic should. -/
example : Statement.parse 1 "PRN: R0" = .error (.malformed 1 6 (.expectedInstruction "R0")) := by cbv

end ByteMachine.Source
