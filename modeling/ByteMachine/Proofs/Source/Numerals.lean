import ByteMachine.Proofs.Source.Building
import ByteMachine.Proofs.Source.RegisterName
import ByteMachine.Proofs.Source.Written
import ByteMachine.Proofs.Text.Digits

/-
  Numerals as operands. A numeral is written with the digits of its base, as many as there
  may be, and is one token. Its number is looked at twice: a number of more than sixteen
  bits makes the token stray, and one that is no byte, or no register, is refused as an
  operand. What is proved:

    1. `Token.Carries.munched`: a numeral with nothing behind it is one token, and which one
       depends on its number only, not on its length.
    2. `bounded_eq_built`: to find the kind of that token no number of more than sixteen
       bits has to be formed.
    3. `numerals_as_operands`: what becomes of the numeral as the byte of a load and as the
       register of a print.
-/

namespace ByteMachine.Source
open Token

/-! ## Numerals as tokens -/

/-- The ways to write a number: in decimal digits, or in others with the mark of their base in
front. -/
inductive Numeral : List Char → Nat → Prop
  | decimal {digits : List Char} {n : Nat} (some : digits ≠ []) (all : Text.Digits 10 digits n) :
      Numeral digits n
  | hex {c : Char} {digits : List Char} {n : Nat} (mark : c = 'x' ∨ c = 'X') (some : digits ≠ [])
      (all : Text.Digits 16 digits n) : Numeral ('0' :: c :: digits) n
  | binary {c : Char} {digits : List Char} {n : Nat} (mark : c = 'b' ∨ c = 'B')
      (some : digits ≠ []) (all : Text.Digits 2 digits n) : Numeral ('0' :: c :: digits) n

/-- Whether the kind is that of a number in some base. -/
def IsNumber (kind : Kind) (n : Nat) : Prop :=
  kind = .decimal n ∨ kind = .hex n ∨ kind = .binary n

section Tokens
variable {w digits : List Char} {n : Nat} {kind : Kind}

theorem Numeral.carries (h : Numeral w n) : ∃ kind, Carries w n kind ∧ IsNumber kind n := by
  cases h with
  | decimal some all =>
    obtain ⟨passed, rfl⟩ := (Text.digits_iff Text.tests_isDigit (by decide)).mp all
    exact ⟨_, .decimal (.decimal some passed), .inl rfl⟩
  | hex mark some all =>
    obtain ⟨passed, rfl⟩ := (Text.digits_iff Text.tests_isHexDigit (by decide)).mp all
    exact ⟨_, .hex (.hex mark some passed), .inr (.inl rfl)⟩
  | binary mark some all =>
    obtain ⟨passed, rfl⟩ := (Text.digits_iff Text.tests_isBit (by decide)).mp all
    exact ⟨_, .binary (.binary mark some passed), .inr (.inr rfl)⟩

theorem carries_register (some : digits ≠ []) (all : Text.Digits 10 digits n) :
    Carries ('R' :: digits) n (.register n) := by
  obtain ⟨passed, rfl⟩ := (Text.digits_iff Text.tests_isDigit (by decide)).mp all
  exact .register (.inr rfl) (.register (.inr rfl) some passed)

/-- What carries a number and has nothing behind it is one token, stray if the number is large. -/
theorem Token.Carries.munched (h : Carries w n kind) :
    (n ≤ 65535 → Munched w [] kind) ∧ (65535 < n → Munched w [] .stray) := by
  have longest : Longest w [] := by
    obtain ⟨rule, decides, -⟩ := h.decides
    exact longest_of_boundary decides.spelled.ne_nil boundary_nil
  constructor
  · exact fun small => .longest (.number h small) longest
  · exact fun large => .longest (.stray h large) longest

/-- The kind of a numeral is found by building its number up, with none of more than sixteen bits on
the way. -/
theorem bounded_eq_built {base : UInt16} {digits : List Char} (kind : Nat → Kind)
    (pos : 0 < base.toNat) : Kind.bounded kind (Text.numeral base.toNat digits) =
      ((Text.built base digits).map fun m => kind m.toNat).getD .stray := by
  have found : ∀ m, Text.built base digits = some m ↔
      Text.numeral base.toNat digits = m.toNat := by
    intro m
    rw [Text.built_eq_some_iff pos, Text.numeral_eq_valueIn]
  cases built : Text.built base digits with
  | some m =>
    have small := m.toNat_lt
    rw [(found m).mp built, Kind.bounded, if_pos (by rw [greatestNumber]; omega)]
    rfl
  | none =>
    refine if_neg fun small => ?_
    have fits : (UInt16.ofNat (Text.numeral base.toNat digits)).toNat =
        Text.numeral base.toNat digits := by
      rw [UInt16.toNat_ofNat']
      rw [greatestNumber] at small
      omega
    rw [(found _).mpr fits.symm] at built
    cases built

end Tokens

/-! ## Lines that end in a numeral -/

section Lines
variable {text w : String} {n : Nat} {kind : Kind} {front : List Token} {t : Token}
  {e : SourceError}

/-- A mnemonic with one more token behind it. -/
theorem scan_last (op : Opcode) (munched : Munched w.toList [] kind) :
    scan (op.mnemonic ++ " " ++ w) = [⟨.word, op.mnemonic, 0⟩,
      ⟨kind, w, Text.byteLength op.mnemonic.toList + 1⟩] := by
  have blank : " ".toList = [' '] := rfl
  have token := munched.scanFrom (Text.byteLength op.mnemonic.toList + 1)
  rw [List.append_nil, scanFrom_nil, String.ofList_toList] at token
  rw [scan, String.toList_append, String.toList_append, blank, List.append_assoc,
    List.singleton_append, scanFrom_mnemonic 0 op (by simp [continuesWord]),
    scanFrom_gap _ rfl, Nat.zero_add, token]

/-- A mnemonic with a register and one more token behind it. -/
theorem scan_second (op : Opcode) (r : Register) (munched : Munched w.toList [] kind) :
    scan (op.mnemonic ++ " " ++ r.name ++ ", " ++ w) = [⟨.word, op.mnemonic, 0⟩,
      ⟨.register r.index, r.name, Text.byteLength op.mnemonic.toList + 1⟩,
      ⟨.comma, ",", Text.byteLength op.mnemonic.toList + 1 + Text.byteLength r.name.toList⟩,
      ⟨kind, w, Text.byteLength op.mnemonic.toList + 1 + Text.byteLength r.name.toList + 2⟩] := by
  have blank : " ".toList = [' '] := rfl
  have comma : ", ".toList = [',', ' '] := rfl
  have token := munched.scanFrom
    (Text.byteLength op.mnemonic.toList + 1 + Text.byteLength r.name.toList + 2)
  rw [List.append_nil, scanFrom_nil, String.ofList_toList] at token
  have register := Operand.scanFrom_text (Text.byteLength op.mnemonic.toList + 1)
    (show (Operand.register r).Plain from trivial)
    (show Boundary (',' :: ' ' :: w.toList) by simp [continuesWord])
  simp only [scan, String.toList_append, blank, comma, List.append_assoc, List.cons_append,
    List.nil_append]
  rw [scanFrom_mnemonic 0 op (by simp [continuesWord]), scanFrom_gap _ rfl, Nat.zero_add]
  rw [show r.name.toList = (Operand.register r).text.toList from rfl, register, scanFrom_comma,
    scanFrom_gap _ rfl, Nat.add_assoc _ 1 1]
  exact congrArg (_ :: _ :: _ :: ·) token

/-- Whether the tokens are the beginning of a line on which an operand comes next. -/
structure Awaits (front : List Token) : Prop where
  clean : ∀ u ∈ front, u.kind ≠ .stray
  fine : ∀ k u, front[k]? = some u → ∀ d, ¬ Offends 1 u (roleAt k) d
  next : roleAt front.length = .operand
  bare : ∀ t : Token, t.kind ≠ .colon → Bare (front ++ [t])

/-- A stray token where an operand comes next is unexpected. -/
theorem Awaits.stray (h : Awaits front) (line : firstLine text = front ++ [t])
    (kind : t.kind = .stray) :
    instructionOf text = .error (.malformed 1 (t.start + 1) (.unexpectedInput t.text)) :=
  instructionOf_eq_error_iff.mpr (.inl (.stray line kind h.clean))

theorem Awaits.clean_line (h : Awaits front) (line : firstLine text = front ++ [t])
    (proper : t.kind ≠ .stray) : ∀ u ∈ firstLine text, u.kind ≠ .stray := by
  rw [line]
  exact List.forall_mem_append.mpr ⟨h.clean, List.forall_mem_singleton.mpr proper⟩

/-- Any other token that is no operand there is refused as one. -/
theorem Awaits.offence (h : Awaits front) (line : firstLine text = front ++ [t])
    (proper : t.kind ≠ .stray) (colon : t.kind ≠ .colon) (wrong : Offends 1 t .operand e) :
    instructionOf text = .error e := by
  have clean := h.clean_line line proper
  refine instructionOf_eq_error_iff.mpr (.inl (.misplaced clean (.unlabelled ?_) ?_))
  · rw [line]
    exact h.bare t colon
  · rw [line]
    refine ⟨front.length, ⟨t, by simp, ?_⟩, ?_⟩
    · rw [Nat.add_zero, h.next]
      exact wrong
    · rintro j less d ⟨u, here, bad⟩
      rw [List.getElem?_append_left less] at here
      exact h.fine j u here d bad

theorem names_mnemonic (op : Opcode) : Names op.mnemonic op :=
  ofMnemonic?_eq_some_iff.mp (ofMnemonic?_mnemonic op)

/-- Behind a mnemonic an operand comes next. -/
theorem awaits_first (op : Opcode) (start : Nat) : Awaits [⟨.word, op.mnemonic, start⟩] where
  clean := by simp
  fine := by
    rintro (_ | k) u here
    · cases here
      exact exists_names_iff.mp ⟨rfl, op, names_mnemonic op⟩
    · cases here
  next := rfl
  bare := by
    rintro t colon l c rest whole - mark
    cases whole
    exact colon mark

/-- Behind a register and a comma the second one does. -/
theorem awaits_second {op : Opcode} {m a c : Token} {r : Register} (word : m.kind = .word)
    (names : Names m.text op) (register : a.kind = .register r.index) (comma : c.kind = .comma) :
    Awaits [m, a, c] where
  clean := by simp [word, register, comma]
  fine := by
    rintro (_ | _ | _ | k) u here
    · cases here
      exact exists_names_iff.mp ⟨word, op, names⟩
    · cases here
      refine (exists_denotes_iff ?_ ?_).mp ⟨_, .register register⟩
      · simp [register]
      · simp [register]
    · cases here
      exact fun d wrong => (offends_comma_iff.mp wrong).1 comma
    · cases here
  next := rfl
  bare := by
    rintro t colon l d rest whole - mark
    cases whole
    rw [register] at mark
    cases mark

end Lines

/-! ## Numerals as operands -/

section Operands
variable {w : String} {n : Nat} {kind : Kind}

theorem firstLine_load (munched : Munched w.toList [] kind) (newline : kind ≠ .newline) :
    firstLine ("LDI R0, " ++ w) =
      [⟨.word, "LDI", 0⟩, ⟨.register 0, "R0", 4⟩, ⟨.comma, ",", 6⟩] ++ [⟨kind, w, 8⟩] := by
  have text : "LDI R0, " = Opcode.ldi.mnemonic ++ " " ++ Register.name ⟨0⟩ ++ ", " := by cbv
  have tokens : scan ("LDI R0, " ++ w) =
      [⟨.word, "LDI", 0⟩, ⟨.register 0, "R0", 4⟩, ⟨.comma, ",", 6⟩, ⟨kind, w, 8⟩] := by
    rw [text]
    exact scan_second .ldi ⟨0⟩ munched
  rw [firstLine_eq_scan, tokens]
  · rfl
  · rw [tokens]
    simp [newline]

theorem firstLine_print (munched : Munched w.toList [] kind) (newline : kind ≠ .newline) :
    firstLine ("PRN " ++ w) = [⟨.word, "PRN", 0⟩] ++ [⟨kind, w, 4⟩] := by
  have text : "PRN " = Opcode.prn.mnemonic ++ " " := by cbv
  have tokens : scan ("PRN " ++ w) = [⟨.word, "PRN", 0⟩, ⟨kind, w, 4⟩] := by
    rw [text]
    exact scan_last .prn munched
  rw [firstLine_eq_scan, tokens]
  · rfl
  · rw [tokens]
    simp [newline]

theorem IsNumber.ne (h : IsNumber kind n) :
    kind ≠ .newline ∧ kind ≠ .colon ∧ kind ≠ .stray := by
  rcases h with rfl | rfl | rfl <;> simp

/-- The number that is written as the byte of a load. -/
theorem load_number (carries : Carries w.toList n kind) (number : IsNumber kind n) :
    (n ≤ 255 → ∃ b : UInt8, b.toNat = n ∧ instructionOf ("LDI R0, " ++ w) = .ok (.ldi ⟨0⟩ b)) ∧
    (255 < n → n ≤ 65535 →
      instructionOf ("LDI R0, " ++ w) = .error (.invalidImmediate 1 w)) ∧
    (65535 < n →
      instructionOf ("LDI R0, " ++ w) = .error (.malformed 1 9 (.unexpectedInput w))) := by
  obtain ⟨token, stray⟩ := carries.munched
  obtain ⟨newline, colon, proper⟩ := number.ne
  have names : Names "LDI" .ldi := names_mnemonic .ldi
  have awaits : Awaits [⟨.word, "LDI", 0⟩, ⟨.register 0, "R0", 4⟩, ⟨.comma, ",", 6⟩] :=
    awaits_second (r := ⟨0⟩) rfl names rfl rfl
  refine ⟨?_, ?_, ?_⟩
  · intro small
    have line := firstLine_load (token (by omega)) newline
    have same : (UInt8.ofNat n).toNat = n := UInt8.toNat_ofNat_of_lt' (Nat.lt_succ_of_le small)
    have denotes : Denotes ⟨kind, w, 8⟩ (.immediate (UInt8.ofNat n)) := by
      refine .value ?_
      rw [same]
      exact number
    have form : LineForm (firstLine ("LDI R0, " ++ w)) none
        (some ⟨.ldi, [.register ⟨0⟩, .immediate (UInt8.ofNat n)]⟩) := by
      rw [line]
      exact .plain (.command rfl names (.some (.register rfl) (.more rfl denotes .none)))
    have clean := awaits.clean_line line proper
    exact ⟨UInt8.ofNat n, same, instructionOf_eq_ok_iff.mpr ⟨clean, none, _, form, rfl⟩⟩
  · intro large small
    have line := firstLine_load (token small) newline
    exact awaits.offence line proper colon (.value number large)
  · intro large
    exact awaits.stray (firstLine_load (stray large) nofun) rfl

/-- The number that is written as the register of a print. -/
theorem print_register (carries : Carries w.toList n (.register n)) :
    (n ≤ 7 → ∃ r : Register, (r.index : Nat) = n ∧ instructionOf ("PRN " ++ w) = .ok (.prn r)) ∧
    (7 < n → n ≤ 65535 → instructionOf ("PRN " ++ w) = .error (.invalidRegister 1 w)) ∧
    (65535 < n → instructionOf ("PRN " ++ w) = .error (.malformed 1 5 (.unexpectedInput w))) := by
  obtain ⟨token, stray⟩ := carries.munched
  have awaits : Awaits [⟨.word, "PRN", 0⟩] := awaits_first .prn 0
  refine ⟨?_, ?_, ?_⟩
  · intro small
    have line := firstLine_print (token (by omega)) nofun
    obtain ⟨r, rfl⟩ : ∃ r : Register, (r.index : Nat) = n :=
      ⟨⟨⟨n, Nat.lt_succ_of_le small⟩⟩, rfl⟩
    have form : LineForm (firstLine ("PRN " ++ w)) none (some ⟨.prn, [.register r]⟩) := by
      rw [line]
      exact .plain (.command rfl (names_mnemonic .prn) (.some (.register rfl) .none))
    have clean := awaits.clean_line line nofun
    exact ⟨r, rfl, instructionOf_eq_ok_iff.mpr ⟨clean, none, _, form, rfl⟩⟩
  · intro large small
    have line := firstLine_print (token small) nofun
    exact awaits.offence line nofun nofun (.register rfl large)
  · intro large
    exact awaits.stray (firstLine_print (stray large) nofun) rfl

end Operands

/-- A numeral of any length that is written as the byte of a load is the byte with its number, or it is
refused: where it is too large for a byte, as an operand; where it has more than sixteen bits, as text
that is no token. So it goes with the number of a register. To tell the last case no number of more
than sixteen bits has to be formed, however long the numeral is. -/
theorem numerals_as_operands :
    (∀ (numeral : String) (n : Nat), Numeral numeral.toList n →
      (n ≤ 255 → ∃ b : UInt8, b.toNat = n ∧
        instructionOf ("LDI R0, " ++ numeral) = .ok (.ldi ⟨0⟩ b)) ∧
      (255 < n → n ≤ 65535 →
        instructionOf ("LDI R0, " ++ numeral) = .error (.invalidImmediate 1 numeral)) ∧
      (65535 < n → instructionOf ("LDI R0, " ++ numeral) =
        .error (.malformed 1 9 (.unexpectedInput numeral)))) ∧
    (∀ (digits : String) (n : Nat), digits ≠ "" → Text.Digits 10 digits.toList n →
      (n ≤ 7 → ∃ r : Register, (r.index : Nat) = n ∧
        instructionOf ("PRN R" ++ digits) = .ok (.prn r)) ∧
      (7 < n → n ≤ 65535 →
        instructionOf ("PRN R" ++ digits) = .error (.invalidRegister 1 ("R" ++ digits))) ∧
      (65535 < n → instructionOf ("PRN R" ++ digits) =
        .error (.malformed 1 5 (.unexpectedInput ("R" ++ digits))))) ∧
    ∀ (base : UInt16) (kind : Nat → Kind) (digits : List Char), 0 < base.toNat →
      Kind.bounded kind (Text.numeral base.toNat digits) =
        ((Text.built base digits).map fun m => kind m.toNat).getD .stray := by
  refine ⟨?_, ?_, fun base kind digits pos => bounded_eq_built kind pos⟩
  · intro numeral n written
    obtain ⟨kind, carries, number⟩ := written.carries
    exact load_number carries number
  · intro digits n present all
    have some : digits.toList ≠ [] := by
      intro none
      exact present (String.toList_eq_nil_iff.mp none)
    have text : "PRN R" ++ digits = "PRN " ++ ("R" ++ digits) := by
      rw [← String.append_assoc]
      rfl
    have letter : ("R" ++ digits).toList = 'R' :: digits.toList := by
      rw [String.toList_append]
      rfl
    have carries := carries_register some all
    rw [← letter] at carries
    rw [text]
    exact print_register carries

/-- More zeros than sixteen bits have digits: in front of the largest byte, of the smallest number
that is none, and of the smallest one that is no token. -/
theorem numerals_as_operands_zeros_in_front :
    (∃ b : UInt8, b.toNat = 255 ∧
      instructionOf ("LDI R0, " ++ "0X00000000fF") = .ok (.ldi ⟨0⟩ b)) ∧
    instructionOf ("LDI R0, " ++ "0b00000000000000000100000000") =
      .error (.invalidImmediate 1 "0b00000000000000000100000000") ∧
    instructionOf ("PRN R" ++ "0000065536") =
      .error (.malformed 1 5 (.unexpectedInput ("R" ++ "0000065536"))) := by
  have byte : Numeral ('0' :: 'X' :: (List.replicate 8 '0' ++ ['f', 'F'])) 255 :=
    .hex (.inr rfl) (by simp) (.zeros (by decide) ((Text.digits_iff Text.tests_isHexDigit
      (by decide)).mpr ⟨List.all_eq_true.mp rfl, rfl⟩) 8)
  have none : Numeral ('0' :: 'b' :: (List.replicate 17 '0' ++ '1' :: List.replicate 8 '0')) 256 :=
    .binary (.inl rfl) (by simp) (.zeros (by decide) ((Text.digits_iff Text.tests_isBit
      (by decide)).mpr ⟨List.all_eq_true.mp rfl, rfl⟩) 17)
  have large : Text.Digits 10 (List.replicate 5 '0' ++ ['6', '5', '5', '3', '6']) 65536 :=
    .zeros (by decide) ((Text.digits_iff Text.tests_isDigit (by decide)).mpr
      ⟨List.all_eq_true.mp rfl, rfl⟩) 5
  exact ⟨(numerals_as_operands.1 "0X00000000fF" 255 byte).1 (by decide),
    (numerals_as_operands.1 "0b00000000000000000100000000" 256 none).2.1 (by decide) (by decide),
    (numerals_as_operands.2.1 "0000065536" 65536 (by decide) large).2.2 (by decide)⟩

end ByteMachine.Source
