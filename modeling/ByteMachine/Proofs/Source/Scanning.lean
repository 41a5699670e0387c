import ByteMachine.Proofs.Source.Munch
import ByteMachine.Proofs.Text.Lines

/-
  Scanning cut in two. Where a text goes on with a character that no word goes on with,
  no rule sees what is behind it, so the tokens of the whole are those of the front and
  then those of the rest, moved (`scanFrom_append`); a carriage return at the end adds
  none. The other way round, each token is a piece of the text, at the byte where it
  starts, and the tokens behind it are those of the text behind it (`exists_place`).
-/

namespace ByteMachine.Source

/-! ## Rules in front of a boundary -/

namespace Rule
variable {w cs rest : List Char}

/-- No rule sees what is behind a boundary. -/
theorem reach_append (ne : w ≠ []) (hrest : Boundary rest) (rule : Rule) :
    rule.reach (w ++ rest) = rule.reach w := by
  -- What a rule spells in the whole is inside `w`, and what it spells in `w` is in the whole.
  apply Nat.le_antisymm
  · apply Nat.le_of_not_lt
    intro more
    obtain ⟨u, pre, length, spelled⟩ := exists_spelled (Nat.zero_lt_of_lt more)
    have inside : u <+: w := by
      refine List.prefix_of_prefix_length_le pre (List.prefix_append w rest) ?_
      rw [length]
      exact reach_le_of_boundary ne hrest rule
    obtain ⟨v, rfl⟩ := inside
    have far := spelled.le_reach v
    rw [length] at far
    exact Nat.not_lt.mpr far more
  · apply Nat.le_of_not_lt
    intro more
    obtain ⟨u, ⟨v, rfl⟩, length, spelled⟩ := exists_spelled (Nat.zero_lt_of_lt more)
    have far := spelled.le_reach (v ++ rest)
    rw [length, ← List.append_assoc] at far
    exact Nat.not_lt.mpr far more

theorem farthest_congr {cs ds : List Char} (same : ∀ rule : Rule, rule.reach cs = rule.reach ds) :
    farthest cs = farthest ds := by
  have step : better cs = better ds := by
    funext best rule
    simp only [better, same]
  rw [farthest, farthest, step]

theorem reach_le_length (rule : Rule) (cs : List Char) : rule.reach cs ≤ cs.length := by
  apply Nat.le_of_not_lt
  intro more
  obtain ⟨u, pre, length, -⟩ := exists_spelled (Nat.zero_lt_of_lt more)
  rw [← length] at more
  exact Nat.not_lt.mpr pre.length_le more

end Rule

namespace Token
variable {w rest : List Char}

theorem first_le_length (ne : w ≠ []) : (first w).2 ≤ w.length := by
  unfold first
  split
  · next rule n wins =>
    obtain ⟨-, -, -, reached, -, -⟩ := Rule.order_of_farthest wins
    dsimp only
    rw [reached]
    exact rule.reach_le_length w
  · exact List.length_pos_iff.mpr ne

/-- The first token does not depend on what is behind a boundary. -/
theorem first_append (ne : w ≠ []) (hrest : Boundary rest) : first (w ++ rest) = first w := by
  have short := first_le_length ne
  have same : Rule.farthest (w ++ rest) = Rule.farthest w :=
    Rule.farthest_congr (Rule.reach_append ne hrest)
  unfold first at short ⊢
  rw [same]
  cases wins : Rule.farthest w with
  | none => rfl
  | some winner =>
    obtain ⟨rule, n⟩ := winner
    rw [wins] at short
    dsimp only at short ⊢
    rw [List.take_append_of_le_length short]

/-! ## Texts one behind the other -/

/-- A character between tokens, or in front of a comment, has one byte and ends no line. -/
theorem narrow_of_separates {c : Char} (h : isGap c = true ∨ opensComment c = true) :
    c.utf8Size = 1 ∧ c ≠ '\n' := by
  simp only [isGap, opensComment, Bool.or_eq_true, beq_iff_eq] at h
  rcases h with ((rfl | rfl) | rfl) | (rfl | rfl) <;> exact ⟨rfl, by decide⟩

theorem scanFrom_comment (start : Nat) {c : Char} (comment : opensComment c = true)
    (rest : List Char) : scanFrom start (c :: rest) =
      scanFrom (start + 1 + Text.byteLength (Text.beforeNewline rest)) (Text.fromNewline rest) := by
  have solid : ¬ isGap c = true := by
    simp only [opensComment, Bool.or_eq_true, beq_iff_eq] at comment
    rcases comment with rfl | rfl <;> decide
  rw [scanFrom, if_neg solid, if_pos comment]

theorem scanFrom_solid (start : Nat) {c : Char} (gap : ¬ isGap c = true)
    (comment : ¬ opensComment c = true) (rest : List Char) : scanFrom start (c :: rest) =
      ⟨(first (c :: rest)).1, String.ofList ((c :: rest).take (first (c :: rest)).2), start⟩ ::
        scanFrom (start + Text.byteLength ((c :: rest).take (first (c :: rest)).2))
          ((c :: rest).drop (first (c :: rest)).2) := by
  rw [scanFrom, if_neg gap, if_neg comment]

/-- A text with more behind it has its own tokens and then those of the rest, if no word goes on into
the rest and a comment that runs into it leaves its tokens as they are. -/
theorem scanFrom_append (hrest : Boundary rest) (unseen : ∀ start,
      scanFrom (start + Text.byteLength (Text.beforeNewline rest)) (Text.fromNewline rest) =
        scanFrom start rest) (start : Nat) (w : List Char) :
    scanFrom start (w ++ rest) = scanFrom start w ++ scanFrom (start + Text.byteLength w) rest := by
  -- By the recursion of the scanner. Of what it takes off, only a comment can go on past `w`.
  induction start, w using scanFrom.induct with
  | case1 start => simp [scanFrom_nil, Text.byteLength]
  | case2 start c w gap ih =>
    have one := (narrow_of_separates (.inl gap)).1
    rw [List.cons_append, scanFrom_gap start gap, scanFrom_gap start gap, ih, Text.byteLength, one,
      Nat.add_assoc]
  | case3 start c w gap comment ih =>
    have one := (narrow_of_separates (.inr comment)).1
    rw [List.cons_append, scanFrom_comment start comment, scanFrom_comment start comment,
      Text.byteLength, one]
    by_cases newline : '\n' ∈ w
    · obtain ⟨before, after⟩ := Text.newline_append_of_mem newline rest
      have whole : Text.beforeNewline w ++ Text.fromNewline w = w := List.takeWhile_append_dropWhile
      have bytes := congrArg Text.byteLength whole
      rw [Text.byteLength_append] at bytes
      rw [before, after, ih, ← bytes, Nat.add_assoc, Nat.add_assoc, Nat.add_assoc]
    · -- The comment goes on into the rest.
      obtain ⟨before, after⟩ := Text.newline_append_of_not_mem newline rest
      rw [before, after, Text.fromNewline_of_not_mem newline, scanFrom_nil, List.nil_append,
        Text.byteLength_append, ← Nat.add_assoc, unseen, Nat.add_assoc]
  | case4 start c w gap comment taken ih =>
    have ne : c :: w ≠ [] := List.cons_ne_nil c w
    have short := first_le_length ne
    have same : first (c :: w ++ rest) = first (c :: w) := first_append ne hrest
    rw [List.cons_append] at same
    have parts := List.take_append_drop (first (c :: w)).2 (c :: w)
    have bytes := congrArg Text.byteLength parts
    rw [Text.byteLength_append] at bytes
    rw [List.cons_append, scanFrom_solid start gap comment, scanFrom_solid start gap comment, same,
      ← List.cons_append, List.take_append_of_le_length short, List.drop_append_of_le_length short,
      ih, List.cons_append, ← bytes, Nat.add_assoc]

/-- A carriage return at the end adds no token. -/
theorem scanFrom_append_return (start : Nat) (w : List Char) :
    scanFrom start (w ++ ['\r']) = scanFrom start w := by
  have none : ∀ start, scanFrom start ['\r'] = [] := by
    intro start
    rw [scanFrom_gap start rfl, scanFrom_nil]
  have before : Text.beforeNewline ['\r'] = ['\r'] := rfl
  have after : Text.fromNewline ['\r'] = [] := rfl
  rw [scanFrom_append (by simp [continuesWord]), none, List.append_nil]
  intro start
  rw [before, after, none, scanFrom_nil]

theorem scan_dropReturn (line : List Char) :
    scan (String.ofList (Text.dropReturn line)) = scan (String.ofList line) := by
  unfold Text.dropReturn
  split
  · next last =>
    obtain ⟨front, rfl⟩ := List.getLast?_eq_some_iff.mp last
    rw [List.dropLast_concat, scan, scan, String.toList_ofList, String.toList_ofList,
      scanFrom_append_return]
  · rfl

/-! ## Where tokens stand -/

/-- A token is spelled by a rule, or is a single character that no rule matches. -/
theorem Stands.spelled_or {kind : Kind} (h : Stands kind w) :
    (∃ rule : Rule, rule.Spells w ∧ kind = rule.kind w) ∨
      kind = .stray ∧ w.length = 1 ∧ ∀ rule : Rule, rule.reach w = 0 := by
  have found := h.first [] boundary_nil
  rw [List.append_nil] at found
  unfold Token.first at found
  split at found
  · next rule n wins =>
    obtain ⟨-, -, -, reached, -, -⟩ := Rule.order_of_farthest wins
    obtain ⟨rfl, rfl⟩ := Prod.mk.inj found
    have same : rule.reach (w ++ []) = w.length := by rw [List.append_nil, reached]
    rw [List.take_length]
    exact .inl ⟨rule, Rule.spells_of_reach (Rule.pos_of_farthest wins) same, rfl⟩
  · next none =>
    obtain ⟨rfl, length⟩ := Prod.mk.inj found
    exact .inr ⟨rfl, length.symm, Rule.reach_of_farthest_eq_none none⟩

/-- Only a newline has a newline in it. -/
theorem Stands.eq_newline {kind : Kind} (h : Stands kind w) (newline : '\n' ∈ w) :
    kind = .newline := by
  obtain ⟨rule, spelled, rfl⟩ | ⟨-, length, none⟩ := h.spelled_or
  · have alone : w = ['\n'] := by
      obtain all | rfl | rfl | rfl := spelled.continuesWord_or
      · cases all _ newline
      · simp at newline
      · simp at newline
      · rfl
    subst alone
    have found := h.first [] boundary_nil
    exact congrArg Prod.fst found.symm
  · obtain ⟨c, rfl⟩ := List.length_eq_one_iff.mp length
    rw [List.mem_singleton] at newline
    subst newline
    exact absurd (none .newline) (by decide)

/-- Only a comma is read as one. -/
theorem Stands.eq_comma (h : Stands .comma w) : w = [','] := by
  obtain ⟨rule, spelled, kind⟩ | ⟨kind, -⟩ := h.spelled_or
  · cases spelled with
    | comma => rfl
    | word | colon | newline => cases kind
    | register | pointer | decimal | hex | binary =>
      simp only [Rule.kind, Kind.bounded] at kind
      split at kind <;> cases kind
  · cases kind

/-- Each token is a piece of the text, at the byte where it starts, and what is scanned behind it are
the tokens of the text behind it. -/
theorem exists_place {start : Nat} {cs : List Char} {front back : List Token} {t : Token}
    (scanned : scanFrom start cs = front ++ t :: back) :
    ∃ before after, cs = before ++ t.text.toList ++ after ∧
      t.start = start + Text.byteLength before ∧
      back = scanFrom (t.start + Text.byteLength t.text.toList) after ∧
      ((∀ u ∈ front, u.kind ≠ .newline) → '\n' ∉ before) := by
  -- By the recursion of the scanner; only the last case takes a token off the front.
  induction start, cs using scanFrom.induct generalizing front with
  | case1 start =>
    rw [scanFrom_nil] at scanned
    simp at scanned
  | case2 start c rest gap ih =>
    obtain ⟨one, ends⟩ := narrow_of_separates (.inl gap)
    rw [scanFrom_gap start gap] at scanned
    obtain ⟨before, after, rfl, place, behind, flat⟩ := ih scanned
    refine ⟨c :: before, after, rfl, ?_, behind, fun plain => ?_⟩
    · rw [place, Text.byteLength, one, Nat.add_assoc]
    · exact List.not_mem_cons_of_ne_of_not_mem (Ne.symm ends) (flat plain)
  | case3 start c rest gap comment ih =>
    obtain ⟨one, ends⟩ := narrow_of_separates (.inr comment)
    rw [scanFrom_comment start comment] at scanned
    obtain ⟨before, after, whole, place, behind, flat⟩ := ih scanned
    have parts : rest = Text.beforeNewline rest ++ Text.fromNewline rest :=
      List.takeWhile_append_dropWhile.symm
    refine ⟨c :: Text.beforeNewline rest ++ before, after, ?_, ?_, behind, fun plain => ?_⟩
    · conv_lhs => rw [parts, whole]
      simp
    · rw [place, Text.byteLength_append, Text.byteLength, one, Nat.add_assoc, Nat.add_assoc,
        Nat.add_assoc]
    · have inside : '\n' ∉ Text.beforeNewline rest := fun mem =>
        Text.not_newline_of_mem_beforeNewline mem rfl
      exact List.not_mem_append (List.not_mem_cons_of_ne_of_not_mem (Ne.symm ends) inside)
        (flat plain)
  | case4 start c rest gap comment taken =>
    rename_i ih
    have parts := List.take_append_drop (first (c :: rest)).2 (c :: rest)
    have solid : Solid c := ⟨by simpa using gap, by simpa using comment⟩
    have stands : Stands (first (c :: rest)).1 ((c :: rest).take (first (c :: rest)).2) :=
      stands_first solid
    rw [scanFrom_solid start gap comment] at scanned
    cases front with
    | nil =>
      obtain ⟨rfl, rfl⟩ := List.cons.inj scanned
      refine ⟨[], (c :: rest).drop (first (c :: rest)).2, ?_, rfl, ?_, fun _ => List.not_mem_nil⟩
      · rw [String.toList_ofList, List.nil_append, parts]
      · rw [String.toList_ofList]
    | cons u front =>
      rw [List.cons_append] at scanned
      obtain ⟨rfl, later⟩ := List.cons.inj scanned
      obtain ⟨before, after, whole, place, behind, flat⟩ := ih later
      refine ⟨taken ++ before, after, ?_, ?_, behind, fun plain => ?_⟩
      · rw [List.append_assoc, List.append_assoc, ← List.append_assoc before, ← whole]
        exact parts.symm
      · rw [place, Text.byteLength_append, Nat.add_assoc]
      · refine List.not_mem_append (fun mem => ?_) (flat fun u mem => ?_)
        · exact plain _ List.mem_cons_self (stands.eq_newline mem)
        · exact plain u (List.mem_cons_of_mem _ mem)

end Token

end ByteMachine.Source
