import ByteMachine.Proofs.Source.Grammar
import ByteMachine.Proofs.Source.Scanning
import ByteMachine.Proofs.Text.Blank

/-
  The columns that errors point at. An error in the form of a line is about one token of
  the line (`AtFault`): the first stray one, the one that stands where a mnemonic was
  expected, the leftmost one out of place behind the mnemonic, or the comma at the end.
  Columns count bytes from 1, and every error but the last points at the first byte of its
  token. A comma at the end is reported where the text ends, blanks aside: at the comma
  just if nothing but blanks is behind it, so not if there is a comment or another line.
-/

namespace ByteMachine.Source

/-- The token that is at fault where a line is refused for its form. -/
inductive AtFault (line : Nat) (source : String) : FormError → Token → Prop
  | stray {before after : List Token} {t : Token} (found : firstLine source = before ++ t :: after)
      (kind : t.kind = .stray) (first : ∀ u ∈ before, u.kind ≠ .stray) :
      AtFault line source (.unexpectedInput t.text) t
  | mnemonic {t : Token} {ts : List Token} (clean : ∀ u ∈ firstLine source, u.kind ≠ .stray)
      (behind : Behind (firstLine source) (t :: ts)) (other : t.kind ≠ .word) :
      AtFault line source (.expectedInstruction t.text) t
  | operand {k : Nat} {t : Token} {ts : List Token}
      (clean : ∀ u ∈ firstLine source, u.kind ≠ .stray) (behind : Behind (firstLine source) ts)
      (here : ts[k]? = some t)
      (wrong : roleAt k = .operand ∧ (t.kind = .comma ∨ t.kind = .colon) ∨
        roleAt k = .comma ∧ t.kind ≠ .comma)
      (leftmost : ∀ j < k, ∀ d, ¬ OffenceAt line 0 ts j d) :
      AtFault line source (.unexpectedToken t.text) t
  | comma {ts : List Token} {c : Token} {label : Option String} {op : Opcode} {x : Operand}
      {xs : List Operand} (clean : ∀ u ∈ firstLine source, u.kind ≠ .stray)
      (found : firstLine source = ts ++ [c]) (mark : c.kind = .comma)
      (form : LineForm ts label (some ⟨op, x :: xs⟩)) : AtFault line source .trailingComma c

/-- Whether the token is written on the first line of the source, between `before` and `after`. -/
structure Written (source : String) (t : Token) (before after : List Char) : Prop where
  whole : source.toList = before ++ t.text.toList ++ after
  start : t.start = Text.byteLength before
  flat : '\n' ∉ before ++ t.text.toList

/-- Whether what is wrong with the form of the first line is reported at the first byte of the token
at fault, counted from 1. -/
def PointsAtFault (line : Nat) (source : String) : Prop :=
  ∀ l column form, Statement.parse line source = .error (.malformed l column form) →
    ∃ t before after, AtFault line source form t ∧ Written source t before after ∧
      column = Text.byteLength before + 1

variable {line l column : Nat} {source : String} {form : FormError} {t : Token}

/-! ## Tokens of the first line -/

theorem Behind.subset {ts us : List Token} (h : Behind ts us) : us ⊆ ts := by
  cases h with
  | label word mark => exact fun t mem => List.mem_cons_of_mem _ (List.mem_cons_of_mem _ mem)
  | unlabelled bare => exact List.Subset.refl ts

theorem AtFault.mem (h : AtFault line source form t) : t ∈ firstLine source := by
  cases h with
  | stray found =>
    rw [found]
    exact List.mem_append_right _ List.mem_cons_self
  | mnemonic _ behind => exact behind.subset List.mem_cons_self
  | operand _ behind here => exact behind.subset (List.mem_of_getElem? here)
  | comma _ found =>
    rw [found]
    exact List.mem_append_right _ List.mem_cons_self

theorem stands_of_mem_firstLine (mem : t ∈ firstLine source) :
    Token.Stands t.kind t.text.toList :=
  (Token.stands_of_mem_scanFrom ((List.takeWhile_prefix _).subset mem)).1

theorem exists_written (mem : t ∈ firstLine source) :
    ∃ before after, Written source t before after := by
  obtain ⟨front, back, line⟩ := List.append_of_mem mem
  have plain : ∀ u ∈ front, u.kind ≠ .newline := by
    intro u inside
    have onLine : u ∈ firstLine source := by
      rw [line]
      exact List.mem_append_left _ inside
    exact not_newline_of_mem_firstLine onLine
  obtain ⟨later, whole⟩ := List.takeWhile_prefix (l := Token.scan source) (·.kind != .newline)
  have scanned : Token.scanFrom 0 source.toList = front ++ t :: (back ++ later) := by
    rw [← Token.scan, ← whole, ← firstLine, line]
    simp
  obtain ⟨before, after, text, place, -, flat⟩ := Token.exists_place scanned
  rw [Nat.zero_add] at place
  refine ⟨before, after, text, place, List.not_mem_append (flat plain) fun newline => ?_⟩
  exact not_newline_of_mem_firstLine mem ((stands_of_mem_firstLine mem).eq_newline newline)

theorem roleAt_add_one_ne : ∀ k, roleAt (k + 1) ≠ .mnemonic
  | 0 | 1 => nofun
  | k + 2 => roleAt_add_one_ne k

/-! ## Columns -/

/-- What an error in the form of a line says of the token at fault. -/
theorem exists_atFault (h : Statement.parse line source = .error (.malformed l column form)) :
    l = line ∧ ∃ t, AtFault line source form t ∧
      (form ≠ .trailingComma → column = t.start + 1) ∧
      (form = .trailingComma → column = Statement.trimmedLength source) := by
  cases parse_eq_error_iff.mp h with
  | stray found kind first => exact ⟨rfl, _, .stray found kind first, fun _ => rfl, nofun⟩
  | trailing clean found mark form =>
    exact ⟨rfl, _, .comma clean found mark form, fun other => absurd rfl other, fun _ => rfl⟩
  | @misplaced ts _ clean behind leftmost =>
    obtain ⟨k, ⟨t, here, wrong⟩, first⟩ := leftmost
    rw [Nat.add_zero] at wrong
    -- Only at the first place a mnemonic is expected; behind it there are operands and commas.
    generalize role : roleAt k = r at wrong
    cases wrong with
    | instruction other =>
      cases k with
      | zero =>
        cases ts with
        | nil => cases here
        | cons u ts =>
          cases here
          exact ⟨rfl, t, .mnemonic clean behind other, fun _ => rfl, nofun⟩
      | succ k => exact absurd role (roleAt_add_one_ne k)
    | mark punctuation =>
      exact ⟨rfl, t, .operand clean behind here (.inl ⟨role, punctuation⟩) first, fun _ => rfl, nofun⟩
    | other different =>
      exact ⟨rfl, t, .operand clean behind here (.inr ⟨role, different⟩) first, fun _ => rfl, nofun⟩

/-- An error in the form of a line points at the first byte of the token at fault, unless that is a
comma behind the operands. Such a comma is reported at the last byte of the source that is not
blank, which is the comma just if nothing but blanks is behind it. -/
theorem fault_columns (h : Statement.parse line source = .error (.malformed l column form)) :
    l = line ∧ ∃ t before after, AtFault line source form t ∧ Written source t before after ∧
      (form ≠ .trailingComma → column = Text.byteLength before + 1) ∧
      (form = .trailingComma → column = Statement.trimmedLength source ∧
        (column = Text.byteLength before + 1 ↔ Text.Blanks after)) := by
  obtain ⟨same, t, fault, place, last⟩ := exists_atFault h
  obtain ⟨before, after, written⟩ := exists_written fault.mem
  refine ⟨same, t, before, after, fault, written, ?_, ?_⟩
  · intro other
    rw [place other, written.start]
  · rintro rfl
    refine ⟨last rfl, ?_⟩
    cases fault with
    | comma clean found mark =>
      have onLine : t ∈ firstLine source := by simp [found]
      have stands := stands_of_mem_firstLine onLine
      rw [mark] at stands
      have text : source.toList = before ++ [','] ++ after := by
        rw [written.whole, stands.eq_comma]
      have bytes : Text.byteLength before + 1 = Text.byteLength (before ++ [',']) := by
        rw [Text.byteLength_append]
        rfl
      rw [last rfl, Statement.trimmedLength, text, bytes]
      have solid : Text.isBlank ',' = false := by decide
      apply Text.byteLength_trimEnd_append
      simp [solid]

/-- A token out of place, and a comma with blanks and the end of the line behind it. -/
theorem fault_columns_blank :
    Statement.parse 2 "a: PRN R0 R1 ; x" = .error (.malformed 2 11 (.unexpectedToken "R1")) ∧
    Statement.parse 3 "HLT R0, \t\r\n" = .error (.malformed 3 7 .trailingComma) ∧
    (∃ t before after, AtFault 2 "a: PRN R0 R1 ; x" (.unexpectedToken "R1") t ∧
      Written "a: PRN R0 R1 ; x" t before after ∧ 11 = Text.byteLength before + 1) ∧
    ∃ t before after, AtFault 3 "HLT R0, \t\r\n" .trailingComma t ∧
      Written "HLT R0, \t\r\n" t before after ∧
      (7 = Text.byteLength before + 1 ↔ Text.Blanks after) := by
  have other : Statement.parse 2 "a: PRN R0 R1 ; x" =
      .error (.malformed 2 11 (.unexpectedToken "R1")) := by cbv
  have comma : Statement.parse 3 "HLT R0, \t\r\n" = .error (.malformed 3 7 .trailingComma) := by cbv
  obtain ⟨-, t, before, after, fault, written, place, -⟩ := fault_columns other
  obtain ⟨-, u, front, back, last, mark, -, blank⟩ := fault_columns comma
  exact ⟨other, comma, ⟨t, before, after, fault, written, place (by decide)⟩,
    u, front, back, last, mark, (blank rfl).2⟩

/-- With a comment behind it, a comma at the end is reported at the end of the comment. -/
theorem trailing_comma_before_comment :
    Statement.parse 1 "PRN R0, ; x" = .error (.malformed 1 11 .trailingComma) ∧
      ¬ PointsAtFault 1 "PRN R0, ; x" := by
  have refused : Statement.parse 1 "PRN R0, ; x" = .error (.malformed 1 11 .trailingComma) := by cbv
  have tokens : firstLine "PRN R0, ; x" =
      [⟨.word, "PRN", 0⟩, ⟨.register 0, "R0", 4⟩] ++ [⟨.comma, ",", 6⟩] := by cbv
  refine ⟨refused, fun points => ?_⟩
  obtain ⟨t, before, after, fault, written, column⟩ := points 1 11 _ refused
  cases fault with
  | comma _ found _ _ =>
    rw [tokens] at found
    have last := (List.append_inj' found rfl).2
    have ten : 10 = Text.byteLength before := Nat.succ.inj column
    have start := written.start
    rw [← List.singleton_inj.mp last, ← ten] at start
    cases start

end ByteMachine.Source
