import ByteMachine.Proofs.Source.Scanning
import ByteMachine.Proofs.Text.Blank
import ByteMachine.Proofs.Text.Numeral

/-
  What scanning makes of a text. A text falls into tokens and what separates them, and
  nothing is left over (`Tiles`). Each token is as much of the text in front of it as any
  rule spells, or a single character where no rule spells a beginning of the text
  (`Munched`). What is proved:

    1. A text of the longest length is spelled by one rule only, but for the names of
       registers, which are words as well. So its kind is determined (`kindOf_iff`).
    2. The token that the scanner takes is the one that is munched (`first_iff`).
    3. The tokens of a text are the only ones that it falls into (`tiles_iff`).
-/

namespace ByteMachine.Source

namespace Token

/-! ## Kinds of texts -/

/-- The number that a text of a token carries, and the kind it has with a number in range. -/
inductive Carries : List Char → Nat → Kind → Prop
  | register {c : Char} {digits : List Char} (letter : c = 'r' ∨ c = 'R')
      (spelled : Rule.register.Spells (c :: digits)) :
      Carries (c :: digits) (Text.valueIn 10 digits) (.register (Text.valueIn 10 digits))
  | pointer {c d : Char} (letter : c = 's' ∨ c = 'S') (spelled : Rule.register.Spells [c, d]) :
      Carries [c, d] 7 (.register 7)
  | decimal {digits : List Char} (spelled : Rule.decimal.Spells digits) :
      Carries digits (Text.valueIn 10 digits) (.decimal (Text.valueIn 10 digits))
  | hex {c d : Char} {digits : List Char} (spelled : Rule.hex.Spells (c :: d :: digits)) :
      Carries (c :: d :: digits) (Text.valueIn 16 digits) (.hex (Text.valueIn 16 digits))
  | binary {c d : Char} {digits : List Char} (spelled : Rule.binary.Spells (c :: d :: digits)) :
      Carries (c :: d :: digits) (Text.valueIn 2 digits) (.binary (Text.valueIn 2 digits))

/-- The kind of a text that some rule spells. A name of a register is no word, and a number of more
than sixteen bits is stray. -/
inductive KindOf : List Char → Kind → Prop
  | number {w : List Char} {n : Nat} {kind : Kind} (carries : Carries w n kind)
      (small : n ≤ 65535) : KindOf w kind
  | stray {w : List Char} {n : Nat} {kind : Kind} (carries : Carries w n kind)
      (large : 65535 < n) : KindOf w .stray
  | word {w : List Char} (spelled : Rule.word.Spells w) (other : ¬ Rule.register.Spells w) :
      KindOf w .word
  | comma : KindOf [','] .comma
  | colon : KindOf [':'] .colon
  | newline : KindOf ['\n'] .newline

/-- Whether the text is a number, or names a register, of more than sixteen bits. -/
def TooLarge (w : List Char) : Prop := ∃ n kind, Carries w n kind ∧ 65535 < n

/-- Whether no rule spells a longer beginning of the text than `w`. -/
def Longest (w rest : List Char) : Prop :=
  ∀ (rule : Rule) v, rule.Spells v → v <+: w ++ rest → v.length ≤ w.length

/-- Whether no rule spells a beginning of the text. -/
def Unmatched (cs : List Char) : Prop := ∀ (rule : Rule) v, rule.Spells v → ¬ v <+: cs

/-- The token at the front of a text: its characters `w`, what is behind them, and its kind. -/
inductive Munched (w rest : List Char) : Kind → Prop
  | longest {kind : Kind} (kindOf : KindOf w kind) (longest : Longest w rest) : Munched w rest kind
  | unmatched {c : Char} (single : w = [c]) (solid : Solid c) (none : Unmatched (w ++ rest)) :
      Munched w rest .stray

/-! ## Texts that fall into tokens -/

/-- What may stand in front of `rest` without being part of a token: blanks, and a comment that goes
on to the end of its line. -/
inductive Gap (rest : List Char) : List Char → Prop
  | none : Gap rest []
  | blank {c : Char} {gap : List Char} (blank : c = ' ' ∨ c = '\t' ∨ c = '\r') (more : Gap rest gap) :
      Gap rest (c :: gap)
  | comment {c : Char} {body : List Char} (mark : c = ';' ∨ c = '#') (flat : '\n' ∉ body)
      (stop : ∀ d ∈ rest.head?, d = '\n') : Gap rest (c :: body)

/-- Whether the text that begins at the byte `start` falls into the tokens and the gaps around them. -/
inductive Tiles : Nat → List Char → List Token → Prop
  | last {start : Nat} {gap : List Char} (behind : Gap [] gap) : Tiles start gap []
  | token {start : Nat} {gap rest : List Char} {t : Token} {ts : List Token}
      (before : Gap (t.text.toList ++ rest) gap) (place : t.start = start + Text.byteLength gap)
      (munched : Munched t.text.toList rest t.kind)
      (later : Tiles (t.start + Text.byteLength t.text.toList) rest ts) :
      Tiles start (gap ++ (t.text.toList ++ rest)) (t :: ts)

end Token

/-! ## The kind is determined -/

namespace Rule
variable {rule other : Rule} {w : List Char}

/-- The rule that spells texts with this beginning, if they are no registers. -/
def lead : List Char → Rule
  | c :: d :: _ =>
    if c.isDigit then
      if d = 'x' ∨ d = 'X' then .hex else if d = 'b' ∨ d = 'B' then .binary else .decimal
    else .word
  | [c] =>
    if c.isDigit then .decimal
    else if c = ',' then .comma
    else if c = ':' then .colon
    else if c = '\n' then .newline
    else .word
  | [] => .word

theorem not_isDigit_of_startsWord {c : Char} (h : startsWord c = true) : c.isDigit = false := by
  by_contra digit
  have reached := (Spells.word h (w := []) (by simp)).le_reach []
  rw [List.append_nil, (reach_of_isDigit (by simpa using digit) []).2] at reached
  exact Nat.not_lt_zero 0 reached

theorem lead_word {c : Char} (h : startsWord c = true) (w : List Char) : lead (c :: w) = .word := by
  have digit := not_isDigit_of_startsWord h
  have apart := ne_of_test h
  cases w with
  | nil => simp [lead, digit, apart ',' rfl, apart ':' rfl, apart '\n' rfl]
  | cons d w => simp [lead, digit]

theorem lead_of_spells (h : rule.Spells w) : lead w = rule ∨ rule = .register ∧ lead w = .word := by
  cases h with
  | register letter =>
    refine .inr ⟨rfl, lead_word ?_ _⟩
    rcases letter with rfl | rfl <;> rfl
  | pointer first =>
    refine .inr ⟨rfl, lead_word ?_ _⟩
    rcases first with rfl | rfl <;> rfl
  | word starts => exact .inl (lead_word starts _)
  | decimal some all =>
    obtain ⟨c, digits, rfl⟩ := List.exists_cons_of_ne_nil some
    obtain ⟨first, later⟩ := List.forall_mem_cons.mp all
    cases digits with
    | nil => exact .inl (if_pos first)
    | cons d digits =>
      have apart := ne_of_test (List.forall_mem_cons.mp later).1
      left
      simp [lead, first, apart 'x' rfl, apart 'X' rfl, apart 'b' rfl, apart 'B' rfl]
  | hex mark => rcases mark with rfl | rfl <;> exact .inl rfl
  | binary mark => rcases mark with rfl | rfl <;> exact .inl rfl
  | comma | colon | newline => exact .inl rfl

/-- No rule reaches farther than the one that wins. -/
theorem reach_le_of_farthest {cs : List Char} {n : Nat} (h : farthest cs = some (rule, n))
    (other : Rule) : other.reach cs ≤ n := by
  obtain ⟨before, after, order, reached, stronger, weaker⟩ := order_of_farthest h
  have listed : other ∈ before ++ rule :: after := by
    rw [← order]
    cases other <;> decide
  obtain front | rfl | back := by simpa using listed
  · exact Nat.le_of_lt (stronger other front)
  · exact reached.ge
  · exact weaker other back

/-- Of the rules that spell a text, the one whose kind it has. -/
structure Decides (rule : Rule) (w : List Char) : Prop where
  spelled : rule.Spells w
  stronger : rule = .word → ¬ register.Spells w

/-- No two rules decide the kind of a text. -/
theorem Decides.unique (h : rule.Decides w) (h' : other.Decides w) : rule = other := by
  obtain same | ⟨rfl, word⟩ := lead_of_spells h.spelled
  · obtain same' | ⟨rfl, word⟩ := lead_of_spells h'.spelled
    · exact same.symm.trans same'
    · exact absurd h'.spelled (h.stronger (same.symm.trans word))
  · obtain same' | ⟨rfl, -⟩ := lead_of_spells h'.spelled
    · exact absurd h.spelled (h'.stronger (same'.symm.trans word))
    · rfl

end Rule

namespace Token
variable {w cs rest : List Char} {kind : Kind}

theorem Carries.decides {n : Nat} (h : Carries w n kind) :
    ∃ rule : Rule, rule.Decides w ∧ rule.kind w = if n ≤ 65535 then kind else .stray := by
  cases h with
  | register letter spelled =>
    refine ⟨.register, ⟨spelled, nofun⟩, ?_⟩
    rcases letter with rfl | rfl <;> rw [← Text.numeral_eq_valueIn] <;> rfl
  | pointer letter spelled =>
    refine ⟨.register, ⟨spelled, nofun⟩, ?_⟩
    rcases letter with rfl | rfl <;> rfl
  | decimal spelled =>
    refine ⟨.decimal, ⟨spelled, nofun⟩, ?_⟩
    rw [← Text.numeral_eq_valueIn]
    rfl
  | hex spelled =>
    refine ⟨.hex, ⟨spelled, nofun⟩, ?_⟩
    rw [← Text.numeral_eq_valueIn]
    rfl
  | binary spelled =>
    refine ⟨.binary, ⟨spelled, nofun⟩, ?_⟩
    rw [← Text.numeral_eq_valueIn]
    rfl

/-- The kind of a text is that of the rule that decides it. -/
theorem kindOf_iff : KindOf w kind ↔ ∃ rule : Rule, rule.Decides w ∧ kind = rule.kind w := by
  constructor
  · intro h
    cases h with
    | number carries small =>
      obtain ⟨rule, decides, same⟩ := carries.decides
      exact ⟨rule, decides, by rw [same, if_pos small]⟩
    | stray carries large =>
      obtain ⟨rule, decides, same⟩ := carries.decides
      exact ⟨rule, decides, by rw [same, if_neg (Nat.not_le.mpr large)]⟩
    | word spelled other => exact ⟨.word, ⟨spelled, fun _ => other⟩, rfl⟩
    | comma => exact ⟨.comma, ⟨.comma, nofun⟩, rfl⟩
    | colon => exact ⟨.colon, ⟨.colon, nofun⟩, rfl⟩
    | newline => exact ⟨.newline, ⟨.newline, nofun⟩, rfl⟩
  · rintro ⟨rule, decides, rfl⟩
    have number : ∀ {n k}, Carries w n k → KindOf w (rule.kind w) := by
      intro n k carries
      obtain ⟨other, decides', same⟩ := carries.decides
      obtain rfl := decides.unique decides'
      rw [same]
      split
      · next small => exact .number carries small
      · next large => exact .stray carries (Nat.not_le.mp large)
    cases decides.spelled with
    | register letter some all => exact number (.register letter decides.spelled)
    | pointer first second => exact number (.pointer first decides.spelled)
    | decimal some all => exact number (.decimal decides.spelled)
    | hex mark some all => exact number (.hex decides.spelled)
    | binary mark some all => exact number (.binary decides.spelled)
    | word starts all => exact .word decides.spelled (decides.stronger rfl)
    | comma => exact .comma
    | colon => exact .colon
    | newline => exact .newline

theorem KindOf.unique {other : Kind} (h : KindOf w kind) (h' : KindOf w other) : kind = other := by
  obtain ⟨rule, decides, rfl⟩ := kindOf_iff.mp h
  obtain ⟨rule', decides', rfl⟩ := kindOf_iff.mp h'
  rw [decides.unique decides']

theorem KindOf.spelled (h : KindOf w kind) : ∃ rule : Rule, rule.Spells w := by
  obtain ⟨rule, decides, -⟩ := kindOf_iff.mp h
  exact ⟨rule, decides.spelled⟩

theorem KindOf.not_unmatched (h : KindOf w kind) (rest : List Char) : ¬ Unmatched (w ++ rest) := by
  intro none
  obtain ⟨rule, spelled⟩ := h.spelled
  exact none rule w spelled (List.prefix_append w rest)

/-! ## The first token -/

theorem Munched.ne_nil (h : Munched w rest kind) : w ≠ [] := by
  cases h with
  | longest kindOf =>
    obtain ⟨rule, spelled⟩ := kindOf.spelled
    exact spelled.ne_nil
  | unmatched single =>
    rw [single]
    exact List.cons_ne_nil _ _

theorem Munched.solid (h : Munched w rest kind) : ∀ c ∈ w, Solid c := by
  cases h with
  | longest kindOf =>
    obtain ⟨rule, spelled⟩ := kindOf.spelled
    exact solid_of_spells spelled
  | unmatched single solid =>
    rw [single]
    exact List.forall_mem_singleton.mpr solid

/-- No rule wins just where none spells a beginning of the text. -/
theorem farthest_eq_none_iff : Rule.farthest cs = none ↔ Unmatched cs := by
  constructor
  · intro nowhere rule v spelled pre
    have far := spelled.le_reach_of_prefix pre
    rw [Rule.reach_of_farthest_eq_none nowhere rule] at far
    exact spelled.ne_nil (List.length_eq_zero_iff.mp (Nat.le_zero.mp far))
  · intro none
    refine Rule.farthest_eq_none fun rule => ?_
    by_contra matched
    obtain ⟨u, pre, -, spelled⟩ := Rule.exists_spelled (Nat.pos_of_ne_zero matched)
    exact none rule u spelled pre

/-- The rule that wins decides the kind of its token. -/
theorem decides_of_wins {rule : Rule} (wins : Rule.farthest (w ++ rest) = some (rule, w.length)) :
    rule.Decides w := by
  obtain ⟨before, after, order, reached, stronger, -⟩ := Rule.order_of_farthest wins
  refine ⟨Rule.spells_of_reach (Rule.pos_of_farthest wins) reached.symm, ?_⟩
  rintro rfl register
  -- The first of all rules is that for registers.
  have first : .register ∈ before := by
    cases before with
    | nil => cases order
    | cons b before =>
      obtain ⟨rfl, -⟩ := List.cons.inj order
      exact List.mem_cons_self
  exact Nat.not_lt.mpr (register.le_reach rest) (stronger _ first)

/-- A rule wins with the characters that it spells, if it decides their kind and no rule spells more. -/
theorem wins_iff {rule : Rule} : Rule.farthest (w ++ rest) = some (rule, w.length) ↔
    rule.Decides w ∧ Longest w rest := by
  constructor
  · intro wins
    refine ⟨decides_of_wins wins, ?_⟩
    intro other v spelled pre
    exact Nat.le_trans (spelled.le_reach_of_prefix pre) (Rule.reach_le_of_farthest wins other)
  · rintro ⟨decides, longest⟩
    have far := decides.spelled.le_reach rest
    cases wins : Rule.farthest (w ++ rest) with
    | none =>
      have none := farthest_eq_none_iff.mp wins
      exact absurd (List.prefix_append w rest) (none rule w decides.spelled)
    | some winner =>
      obtain ⟨other, n⟩ := winner
      obtain ⟨before, after, order, reached, -, -⟩ := Rule.order_of_farthest wins
      obtain ⟨u, pre, length, spelled⟩ := Rule.exists_spelled (reached ▸ Rule.pos_of_farthest wins)
      rw [← reached] at length
      have short := longest other u spelled pre
      have same : n = w.length :=
        Nat.le_antisymm (length ▸ short) (Nat.le_trans far (Rule.reach_le_of_farthest wins rule))
      subst same
      rw [decides.unique (decides_of_wins wins)]

/-- The scanner takes the token that is munched. -/
theorem first_iff (head : ∀ c ∈ w.head?, Solid c) (ne : w ≠ []) :
    first (w ++ rest) = (kind, w.length) ↔ Munched w rest kind := by
  constructor
  · intro found
    unfold first at found
    split at found
    · next rule n wins =>
      obtain ⟨rfl, rfl⟩ := Prod.mk.inj found
      obtain ⟨decides, longest⟩ := wins_iff.mp wins
      rw [List.take_left]
      exact .longest (kindOf_iff.mpr ⟨rule, decides, rfl⟩) longest
    · next none =>
      obtain ⟨rfl, one⟩ := Prod.mk.inj found
      obtain ⟨c, rfl⟩ := List.length_eq_one_iff.mp one.symm
      exact .unmatched rfl (head c rfl) (farthest_eq_none_iff.mp none)
  · intro munched
    cases munched with
    | longest kindOf longest =>
      obtain ⟨rule, decides, rfl⟩ := kindOf_iff.mp kindOf
      simp only [first, wins_iff.mpr ⟨decides, longest⟩, List.take_left]
    | unmatched single solid none =>
      rw [first, farthest_eq_none_iff.mpr none, single]
      rfl

/-! ## The whole text -/

theorem isGap_iff {c : Char} : isGap c = true ↔ c = ' ' ∨ c = '\t' ∨ c = '\r' := by
  simp [isGap, or_assoc]

theorem opensComment_iff {c : Char} : opensComment c = true ↔ c = ';' ∨ c = '#' := by
  simp [opensComment]

/-- A gap leaves no tokens. -/
theorem Gap.scanFrom {gap : List Char} (h : Gap rest gap) (start : Nat) :
    scanFrom start (gap ++ rest) = scanFrom (start + Text.byteLength gap) rest := by
  induction h generalizing start with
  | none => rfl
  | blank blank more ih =>
    have separates := isGap_iff.mpr blank
    rw [List.cons_append, scanFrom_gap start separates, ih, Text.byteLength,
      (narrow_of_separates (.inl separates)).1, Nat.add_assoc]
  | comment mark flat stop =>
    have opens := opensComment_iff.mpr mark
    obtain ⟨before, after⟩ := Text.newline_append_of_not_mem flat rest
    obtain ⟨ended, kept⟩ := Text.newline_of_stop stop
    rw [List.cons_append, scanFrom_comment start opens, before, after, ended, kept, List.append_nil,
      Text.byteLength, (narrow_of_separates (.inr opens)).1, Nat.add_assoc]

/-- The tokens that a text falls into are those that are scanned. -/
theorem Tiles.eq_scanFrom {start : Nat} {cs : List Char} {ts : List Token} (h : Tiles start cs ts) :
    ts = scanFrom start cs := by
  induction h with
  | @last start gap behind =>
    have none := behind.scanFrom start
    rw [List.append_nil, scanFrom_nil] at none
    exact none.symm
  | @token start gap rest t ts before place munched later ih =>
    have head : ∀ c ∈ t.text.toList.head?, Solid c :=
      fun c mem => munched.solid c (List.mem_of_mem_head? mem)
    have found := (first_iff head munched.ne_nil).mpr munched
    rw [before.scanFrom, scanFrom_of_first _ head found, ← place, ih, String.ofList_toList]

/-- A blank in front of a gap belongs to it. -/
theorem Tiles.blank {start : Nat} {c : Char} {cs : List Char} {ts : List Token}
    (blank : c = ' ' ∨ c = '\t' ∨ c = '\r') (h : Tiles (start + 1) cs ts) :
    Tiles start (c :: cs) ts := by
  have one : c.utf8Size = 1 := (narrow_of_separates (.inl (isGap_iff.mpr blank))).1
  cases h with
  | last behind => exact .last (.blank blank behind)
  | token before place munched later =>
    refine .token (.blank blank before) ?_ munched later
    rw [place, Text.byteLength, one, Nat.add_assoc]

/-- In front of a newline there is no gap. -/
theorem Gap.eq_nil {gap : List Char} (h : Gap rest gap) (stop : ∀ d ∈ (gap ++ rest).head?, d = '\n') :
    gap = [] := by
  cases h with
  | none => rfl
  | blank blank =>
    obtain rfl := stop _ rfl
    exact absurd blank (by decide)
  | comment mark =>
    obtain rfl := stop _ rfl
    exact absurd mark (by decide)

/-- A comment in front of the end of its line is a gap. -/
theorem Tiles.comment {start : Nat} {c : Char} {body cs : List Char} {ts : List Token}
    (mark : c = ';' ∨ c = '#') (flat : '\n' ∉ body) (stop : ∀ d ∈ cs.head?, d = '\n')
    (h : Tiles (start + 1 + Text.byteLength body) cs ts) : Tiles start (c :: body ++ cs) ts := by
  have one : c.utf8Size = 1 := (narrow_of_separates (.inr (opensComment_iff.mpr mark))).1
  cases h with
  | last behind =>
    obtain rfl := behind.eq_nil (by simpa using stop)
    rw [List.append_nil]
    exact .last (.comment mark flat (by simp))
  | token before place munched later =>
    obtain rfl := before.eq_nil stop
    refine .token (.comment mark flat stop) ?_ munched later
    rw [place, Text.byteLength, Text.byteLength, one, Nat.add_zero, Nat.add_assoc]

/-- The token at the front of a text is a piece of it. -/
theorem exists_first {c : Char} (solid : Solid c) (rest : List Char) :
    ∃ w tail, c :: rest = w ++ tail ∧ w.length = (first (c :: rest)).2 ∧
      Munched w tail (first (c :: rest)).1 := by
  have whole := List.take_append_drop (first (c :: rest)).2 (c :: rest)
  have length := List.length_take_of_le (first_le_length (List.cons_ne_nil c rest))
  generalize (c :: rest).take (first (c :: rest)).2 = w at whole length
  generalize (c :: rest).drop (first (c :: rest)).2 = tail at whole
  have pos := first_pos (c :: rest)
  refine ⟨w, tail, whole.symm, length, (first_iff ?_ ?_).mp ?_⟩
  · rintro d head
    have same := List.mem_head?_append_of_mem_head? (t := tail) head
    rw [whole] at same
    cases same
    exact solid
  · exact List.length_pos_iff.mp (length ▸ pos)
  · rw [whole, length]

/-- A token may stand at the front. -/
theorem Tiles.first {start : Nat} {ts : List Token} (munched : Munched w rest kind)
    (later : Tiles (start + Text.byteLength w) rest ts) :
    Tiles start (w ++ rest) (⟨kind, String.ofList w, start⟩ :: ts) := by
  rw [← String.toList_ofList (l := w)] at munched later
  have tiles := Tiles.token (t := ⟨kind, String.ofList w, start⟩) .none rfl munched later
  rwa [String.toList_ofList] at tiles

/-- Each text falls into the tokens that are scanned. -/
theorem tiles_scanFrom (start : Nat) (cs : List Char) : Tiles start cs (scanFrom start cs) := by
  -- By the recursion of the scanner. What separates tokens goes to the gap in front of the next one.
  induction start, cs using scanFrom.induct with
  | case1 start =>
    rw [scanFrom_nil]
    exact .last .none
  | case2 start c rest gap ih =>
    rw [scanFrom_gap start gap]
    exact ih.blank (isGap_iff.mp gap)
  | case3 start c rest gap comment ih =>
    rw [scanFrom_comment start comment]
    have whole : Text.beforeNewline rest ++ Text.fromNewline rest = rest :=
      List.takeWhile_append_dropWhile
    have flat : '\n' ∉ Text.beforeNewline rest :=
      fun mem => Text.not_newline_of_mem_beforeNewline mem rfl
    have tiles := ih.comment (opensComment_iff.mp comment) flat (Text.stop_fromNewline rest)
    rwa [List.cons_append, whole] at tiles
  | case4 start c rest gap comment taken ih =>
    have solid : Solid c := ⟨by simpa using gap, by simpa using comment⟩
    obtain ⟨w, tail, whole, length, munched⟩ := exists_first solid rest
    rw [scanFrom_solid start gap comment]
    dsimp only [taken] at ih
    rw [← length] at ih ⊢
    generalize (first (c :: rest)).1 = kind at munched ⊢
    rw [whole, List.take_left, List.drop_left] at ih ⊢
    exact .first munched ih

/-- A text falls into just the tokens that are scanned. -/
theorem tiles_iff {start : Nat} {cs : List Char} {ts : List Token} :
    Tiles start cs ts ↔ ts = scanFrom start cs := by
  refine ⟨Tiles.eq_scanFrom, ?_⟩
  rintro rfl
  exact tiles_scanFrom start cs

/-- The token that is munched is scanned, and then those of the text behind it. -/
theorem Munched.scanFrom (h : Munched w rest kind) (start : Nat) :
    scanFrom start (w ++ rest) =
      ⟨kind, String.ofList w, start⟩ :: scanFrom (start + Text.byteLength w) rest :=
  (Tiles.first h (tiles_scanFrom _ rest)).eq_scanFrom.symm

/-! ## Tokens in their places -/

/-- Each token is munched from the text behind what is in front of it. -/
theorem Tiles.exists_place {start : Nat} {cs : List Char} {ts : List Token} (h : Tiles start cs ts)
    {t : Token} (mem : t ∈ ts) : ∃ before after, cs = before ++ t.text.toList ++ after ∧
      t.start = start + Text.byteLength before ∧ Munched t.text.toList after t.kind := by
  induction h with
  | last => cases mem
  | @token start gap rest u ts between place munched later ih =>
    obtain rfl | mem := List.mem_cons.mp mem
    · exact ⟨gap, rest, (List.append_assoc ..).symm, place, munched⟩
    · obtain ⟨before, after, rfl, start, munched⟩ := ih mem
      refine ⟨gap ++ u.text.toList ++ before, after, by simp, ?_, munched⟩
      rw [start, place, Text.byteLength_append, Text.byteLength_append, Nat.add_assoc,
        Nat.add_assoc, Nat.add_assoc]

/-- Tokens follow one another, none inside the one before it. -/
theorem Tiles.pairwise {start : Nat} {cs : List Char} {ts : List Token} (h : Tiles start cs ts) :
    ts.Pairwise fun t u => t.start + Text.byteLength t.text.toList ≤ u.start := by
  induction h with
  | last => exact .nil
  | @token start gap rest t ts between place munched later ih =>
    refine .cons (fun u mem => ?_) ih
    obtain ⟨before, after, -, start, -⟩ := later.exists_place mem
    rw [start]
    exact Nat.le_add_right _ _

/-- A token is stray just if no rule spells a beginning of the text, or if its number is too large. -/
theorem Munched.stray_iff (h : Munched w rest kind) :
    kind = .stray ↔ Unmatched (w ++ rest) ∨ TooLarge w := by
  cases h with
  | longest kindOf longest =>
    constructor
    · rintro rfl
      cases kindOf with
      | number carries => cases carries
      | stray carries large => exact .inr ⟨_, _, carries, large⟩
    · rintro (none | ⟨n, other, carries, large⟩)
      · exact absurd none (kindOf.not_unmatched rest)
      · exact kindOf.unique (.stray carries large)
  | unmatched single solid none => exact ⟨fun _ => .inl none, fun _ => rfl⟩

theorem Munched.single (h : Munched w rest kind) (none : Unmatched (w ++ rest)) : ∃ c, w = [c] := by
  cases h with
  | longest kindOf => exact absurd none (kindOf.not_unmatched rest)
  | unmatched single => exact ⟨_, single⟩

/-- A source falls into its tokens, which follow one another, and blanks and comments around them;
there is no other way for it to fall into tokens. Each is the longest one at its place. It is stray
just if no rule matches there, and then a single character, or if its number is too large. -/
theorem scan_tiles (source : String) :
    (∀ ts, Tiles 0 source.toList ts ↔ ts = scan source) ∧
    (∀ t ∈ scan source, ∃ before after, source.toList = before ++ t.text.toList ++ after ∧
      t.start = Text.byteLength before ∧ t.text.toList ≠ [] ∧
      Munched t.text.toList after t.kind ∧
      (t.kind = .stray ↔ Unmatched (t.text.toList ++ after) ∨ TooLarge t.text.toList) ∧
      (Unmatched (t.text.toList ++ after) → ∃ c, t.text.toList = [c])) ∧
    (scan source).Pairwise fun t u =>
      t.start < u.start ∧ t.start + Text.byteLength t.text.toList ≤ u.start := by
  have tiles : Tiles 0 source.toList (scan source) := tiles_scanFrom 0 source.toList
  have places : ∀ t ∈ scan source, ∃ before after,
      source.toList = before ++ t.text.toList ++ after ∧ t.start = Text.byteLength before ∧
        Munched t.text.toList after t.kind := by
    intro t mem
    obtain ⟨before, after, whole, start, munched⟩ := tiles.exists_place mem
    exact ⟨before, after, whole, by rw [start, Nat.zero_add], munched⟩
  refine ⟨fun ts => tiles_iff, fun t mem => ?_, ?_⟩
  · obtain ⟨before, after, whole, start, munched⟩ := places t mem
    exact ⟨before, after, whole, start, munched.ne_nil, munched, munched.stray_iff, munched.single⟩
  · refine tiles.pairwise.imp_of_mem fun {t u} mem _ follows => ⟨?_, follows⟩
    obtain ⟨before, after, -, -, munched⟩ := places t mem
    exact Nat.lt_of_lt_of_le (Nat.lt_add_of_pos_right (Text.byteLength_pos munched.ne_nil)) follows

/-- Words that begin like registers, digits that end before one that is none, a number of more than
sixteen bits, and a letter that no rule knows, behind a comment with another one. -/
theorem scan_tiles_words_and_strays :
    Tiles 0 "R1x spx R1\tSP".toList
      [⟨.word, "R1x", 0⟩, ⟨.word, "spx", 4⟩, ⟨.register 1, "R1", 8⟩, ⟨.register 7, "SP", 11⟩] ∧
    Tiles 0 "0b12 R70000;é\né".toList
      [⟨.binary 1, "0b1", 0⟩, ⟨.decimal 2, "2", 3⟩, ⟨.stray, "R70000", 5⟩, ⟨.newline, "\n", 14⟩,
        ⟨.stray, "é", 15⟩] :=
  ⟨((scan_tiles _).1 _).mpr (by cbv), ((scan_tiles _).1 _).mpr (by cbv)⟩

end Token

end ByteMachine.Source
