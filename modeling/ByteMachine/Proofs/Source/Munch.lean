import ByteMachine.Proofs.Source.Lexeme

/-
  Which texts are tokens. `Spells` says which texts a rule spells, whatever stands
  behind them. How far a rule reaches is then a matter of prefixes: no farther than the
  longest prefix that it spells, and as far as that (`exists_spelled`, `Spells.le_reach`).

  So a token depends on what follows it only in so far as that could make it longer, and
  nothing can that begins with a character no word goes on with. Each token of a source
  stands for itself: put in front of such a text it is the first token there, of the same
  kind (`Stands`, `stands_of_mem_scanFrom`).
-/

namespace ByteMachine.Source

/-! ## Texts that rules spell -/

/-- The texts that are tokens of the rule. -/
inductive Rule.Spells : Rule → List Char → Prop
  | register {c : Char} {digits : List Char} (letter : c = 'r' ∨ c = 'R') (some : digits ≠ [])
      (all : ∀ d ∈ digits, d.isDigit = true) : Spells .register (c :: digits)
  | pointer {c d : Char} (first : c = 's' ∨ c = 'S') (second : d = 'p' ∨ d = 'P') :
      Spells .register [c, d]
  | word {c : Char} {w : List Char} (starts : startsWord c = true)
      (all : ∀ d ∈ w, continuesWord d = true) : Spells .word (c :: w)
  | decimal {digits : List Char} (some : digits ≠ []) (all : ∀ d ∈ digits, d.isDigit = true) :
      Spells .decimal digits
  | hex {c : Char} {digits : List Char} (mark : c = 'x' ∨ c = 'X') (some : digits ≠ [])
      (all : ∀ d ∈ digits, Text.isHexDigit d = true) : Spells .hex ('0' :: c :: digits)
  | binary {c : Char} {digits : List Char} (mark : c = 'b' ∨ c = 'B') (some : digits ≠ [])
      (all : ∀ d ∈ digits, Text.isBit d = true) : Spells .binary ('0' :: c :: digits)
  | comma : Spells .comma [',']
  | colon : Spells .colon [':']
  | newline : Spells .newline ['\n']

section Runs
variable {p : Char → Bool}

theorem le_runLength {w : List Char} (all : ∀ c ∈ w, p c = true) (rest : List Char) :
    w.length ≤ runLength p (w ++ rest) := by
  rw [runLength, List.takeWhile_append_of_pos all, List.length_append]
  exact Nat.le_add_right _ _

theorem le_afterMark {w : List Char} (some : w ≠ []) (all : ∀ c ∈ w, p c = true) (skipped : Nat)
    (rest : List Char) : skipped + w.length ≤ afterMark skipped p (w ++ rest) := by
  have run := le_runLength all rest
  have pos := List.length_pos_iff.mpr some
  rw [afterMark, if_neg (Nat.ne_of_gt (Nat.lt_of_lt_of_le pos run))]
  exact Nat.add_le_add_left run skipped

end Runs

namespace Rule
variable {rule : Rule} {w cs rest : List Char}

/-- A rule reaches over each text that it spells. -/
theorem Spells.le_reach (h : rule.Spells w) (rest : List Char) :
    w.length ≤ rule.reach (w ++ rest) := by
  cases h with
  | register letter some all =>
    have run := le_afterMark some all 1 rest
    rw [Nat.add_comm] at run
    rcases letter with rfl | rfl <;> exact run
  | pointer first second =>
    rcases first with rfl | rfl <;> rcases second with rfl | rfl <;> exact Nat.le_refl 2
  | word starts all =>
    rw [List.cons_append, reach, if_pos starts, List.length_cons, Nat.add_comm]
    exact Nat.add_le_add_left (le_runLength all rest) 1
  | decimal some all => exact le_runLength all rest
  | hex mark some all =>
    have run := le_afterMark some all 2 rest
    rw [Nat.add_comm] at run
    rcases mark with rfl | rfl <;> exact run
  | binary mark some all =>
    have run := le_afterMark some all 2 rest
    rw [Nat.add_comm] at run
    rcases mark with rfl | rfl <;> exact run
  | comma | colon | newline => exact Nat.le_refl 1

theorem Spells.le_reach_of_prefix (h : rule.Spells w) (pre : w <+: cs) :
    w.length ≤ rule.reach cs := by
  obtain ⟨rest, rfl⟩ := pre
  exact h.le_reach rest

/-- The digits behind a mark are spelled with the mark. -/
theorem exists_marked (mark : List Char) {p : Char → Bool}
    (spelled : ∀ digits : List Char, digits ≠ [] → (∀ d ∈ digits, p d = true) →
      rule.Spells (mark ++ digits)) (pos : 0 < afterMark mark.length p cs) :
    ∃ w, w <+: mark ++ cs ∧ w.length = afterMark mark.length p cs ∧ rule.Spells w := by
  have some : runLength p cs ≠ 0 := by
    intro none
    rw [afterMark, if_pos none] at pos
    exact Nat.lt_irrefl 0 pos
  refine ⟨mark ++ cs.takeWhile p, ?_, ?_, spelled _ ?_ fun d => List.mem_takeWhile_imp⟩
  · exact (List.prefix_append_right_inj mark).mpr (List.takeWhile_prefix p)
  · rw [afterMark, if_neg some, List.length_append, runLength]
  · exact fun none => some (by rw [runLength, none, List.length_nil])

/-- A rule reaches as far as a prefix that it spells. -/
theorem exists_spelled (pos : 0 < rule.reach cs) :
    ∃ w, w <+: cs ∧ w.length = rule.reach cs ∧ rule.Spells w := by
  generalize reached : rule.reach cs = n at pos ⊢
  unfold reach at reached
  split at reached
  case h_1 cs =>
    subst reached
    exact exists_marked ['r'] (fun _ => .register (.inl rfl)) pos
  case h_2 cs =>
    subst reached
    exact exists_marked ['R'] (fun _ => .register (.inr rfl)) pos
  case h_3 c d cs _ _ =>
    split at reached
    · next both =>
      subst reached
      exact ⟨[c, d], ⟨cs, rfl⟩, rfl, .pointer both.1 both.2⟩
    · exact absurd reached (Nat.ne_of_lt pos)
  case h_4 c cs =>
    split at reached
    · next starts =>
      subst reached
      refine ⟨c :: cs.takeWhile continuesWord, ?_, Nat.add_comm _ 1, .word starts ?_⟩
      · exact List.cons_prefix_cons.mpr ⟨rfl, List.takeWhile_prefix _⟩
      · exact fun d => List.mem_takeWhile_imp
    · exact absurd reached (Nat.ne_of_lt pos)
  case h_5 =>
    subst reached
    refine ⟨cs.takeWhile Char.isDigit, List.takeWhile_prefix _, rfl, .decimal ?_ ?_⟩
    · exact List.length_pos_iff.mp pos
    · exact fun d => List.mem_takeWhile_imp
  case h_6 cs =>
    subst reached
    exact exists_marked ['0', 'x'] (fun _ => .hex (.inl rfl)) pos
  case h_7 cs =>
    subst reached
    exact exists_marked ['0', 'X'] (fun _ => .hex (.inr rfl)) pos
  case h_8 cs =>
    subst reached
    exact exists_marked ['0', 'b'] (fun _ => .binary (.inl rfl)) pos
  case h_9 cs =>
    subst reached
    exact exists_marked ['0', 'B'] (fun _ => .binary (.inr rfl)) pos
  case h_10 cs => exact ⟨[','], ⟨cs, rfl⟩, reached, .comma⟩
  case h_11 cs => exact ⟨[':'], ⟨cs, rfl⟩, reached, .colon⟩
  case h_12 cs => exact ⟨['\n'], ⟨cs, rfl⟩, reached, .newline⟩
  case h_13 => exact absurd reached (Nat.ne_of_lt pos)

/-- A rule that reaches just the end of a text spells the text. -/
theorem spells_of_reach (some : 0 < w.length) (same : rule.reach (w ++ rest) = w.length) :
    rule.Spells w := by
  obtain ⟨u, pre, length, spelled⟩ := exists_spelled (same ▸ some)
  rw [same] at length
  have inside := List.prefix_of_prefix_length_le pre (List.prefix_append w rest) length.le
  rwa [inside.eq_of_length length] at spelled

theorem Spells.ne_nil (h : rule.Spells w) : w ≠ [] := by
  cases h with
  | decimal some _ => exact some
  | _ => simp

/-- A token consists of characters of words, or is a mark by itself. -/
theorem Spells.continuesWord_or (h : rule.Spells w) :
    (∀ c ∈ w, continuesWord c = true) ∨ w = [','] ∨ w = [':'] ∨ w = ['\n'] := by
  cases h with
  | register letter _ all =>
    refine .inl (List.forall_mem_cons.mpr ⟨?_, fun d mem => continuesWord_of_isDigit (all d mem)⟩)
    rcases letter with rfl | rfl <;> rfl
  | pointer first second =>
    rcases first with rfl | rfl <;> rcases second with rfl | rfl <;>
      exact .inl (by simp [Source.continuesWord])
  | word starts all =>
    exact .inl (List.forall_mem_cons.mpr ⟨continuesWord_of_startsWord starts, all⟩)
  | decimal _ all => exact .inl fun d mem => continuesWord_of_isDigit (all d mem)
  | hex mark _ all =>
    refine .inl (List.forall_mem_cons.mpr ⟨rfl, List.forall_mem_cons.mpr ⟨?_, ?_⟩⟩)
    · rcases mark with rfl | rfl <;> rfl
    · exact fun d mem => continuesWord_of_isHexDigit (all d mem)
  | binary mark _ all =>
    refine .inl (List.forall_mem_cons.mpr ⟨rfl, List.forall_mem_cons.mpr ⟨?_, ?_⟩⟩)
    · rcases mark with rfl | rfl <;> rfl
    · exact fun d mem => continuesWord_of_isBit (all d mem)
  | comma => exact .inr (.inl rfl)
  | colon => exact .inr (.inr (.inl rfl))
  | newline => exact .inr (.inr (.inr rfl))

/-- A token of more than one character consists of characters of words. -/
theorem Spells.continuesWord (h : rule.Spells w) (long : 1 < w.length) :
    ∀ c ∈ w, continuesWord c = true := by
  obtain all | rfl | rfl | rfl := h.continuesWord_or
  · exact all
  all_goals exact absurd long (Nat.lt_irrefl 1)

/-- Behind a boundary nothing is reached from the characters before it. -/
theorem reach_le_of_boundary (ne : w ≠ []) (hrest : Boundary rest) (rule : Rule) :
    rule.reach (w ++ rest) ≤ w.length := by
  apply Nat.le_of_not_lt
  intro far
  obtain ⟨u, pre, length, spelled⟩ := exists_spelled (Nat.zero_lt_of_lt far)
  rw [← length] at far
  have one : 1 ≤ w.length := List.length_pos_iff.mpr ne
  cases rest with
  | nil =>
    rw [List.append_nil] at pre
    exact Nat.not_lt.mpr pre.length_le far
  | cons c rest =>
    -- The longer text contains the character after the boundary.
    have next : w ++ [c] <+: u := by
      refine List.prefix_of_prefix_length_le ?_ pre ?_
      · exact ⟨rest, by simp⟩
      · simpa using far
    have mem : c ∈ u := next.subset (by simp)
    have goes := spelled.continuesWord (Nat.lt_of_le_of_lt one far) c mem
    rw [boundary_cons.mp hrest] at goes
    cases goes

/-! ## The rule that wins -/

/-- The rule that wins reaches farther than those listed before it and as far as those after. -/
theorem order_of_foldl {rules : List Rule} {best : Option (Rule × Nat)} {f : Rule × Nat}
    (h : rules.foldl (better cs) best = some f) :
    (best = some f ∧ ∀ r ∈ rules, r.reach cs ≤ f.2) ∨
      ∃ before after, rules = before ++ f.1 :: after ∧ f.2 = f.1.reach cs ∧
        (best.map (·.2)).getD 0 < f.2 ∧ (∀ r ∈ before, r.reach cs < f.2) ∧
        ∀ r ∈ after, r.reach cs ≤ f.2 := by
  induction rules generalizing best with
  | nil => exact .inl ⟨h, by simp⟩
  | cons r rules ih =>
    obtain ⟨kept, after⟩ | ⟨before, after, order, reached, less, stronger, weaker⟩ := ih h
    · unfold better at kept
      split at kept
      · next farther =>
        cases kept
        exact .inr ⟨[], rules, rfl, rfl, farther, by simp, after⟩
      · next short =>
        subst kept
        exact .inl ⟨rfl, List.forall_mem_cons.mpr ⟨Nat.le_of_not_lt short, after⟩⟩
    · have both : (best.map (·.2)).getD 0 < f.2 ∧ r.reach cs < f.2 := by
        unfold better at less
        split at less
        · next farther => exact ⟨Nat.lt_trans farther less, less⟩
        · next short => exact ⟨less, Nat.lt_of_le_of_lt (Nat.le_of_not_lt short) less⟩
      refine .inr ⟨r :: before, after, by rw [order, List.cons_append], reached, both.1, ?_, weaker⟩
      exact List.forall_mem_cons.mpr ⟨both.2, stronger⟩

theorem order_of_farthest {n : Nat} (h : farthest cs = some (rule, n)) :
    ∃ before after, all = before ++ rule :: after ∧ n = rule.reach cs ∧
      (∀ r ∈ before, r.reach cs < n) ∧ ∀ r ∈ after, r.reach cs ≤ n := by
  obtain ⟨none, -⟩ | ⟨before, after, order, reached, -, stronger, weaker⟩ := order_of_foldl h
  · cases none
  · exact ⟨before, after, order, reached, stronger, weaker⟩

theorem reach_of_foldl_eq_none {rules : List Rule} {best : Option (Rule × Nat)}
    (h : rules.foldl (better cs) best = none) : best = none ∧ ∀ r ∈ rules, r.reach cs = 0 := by
  induction rules generalizing best with
  | nil => exact ⟨h, by simp⟩
  | cons r rules ih =>
    obtain ⟨kept, rest⟩ := ih h
    unfold better at kept
    split at kept
    · cases kept
    · next short =>
      subst kept
      exact ⟨rfl, List.forall_mem_cons.mpr ⟨Nat.eq_zero_of_not_pos short, rest⟩⟩

/-- If no rule wins, none matches. -/
theorem reach_of_farthest_eq_none (h : farthest cs = none) (rule : Rule) : rule.reach cs = 0 := by
  apply (reach_of_foldl_eq_none h).2
  cases rule <;> decide

/-- A rule that has spelled all of a text wins with it in front of each boundary. -/
theorem farthest_append {rest' : List Char} (wins : farthest (w ++ rest) = some (rule, w.length))
    (hrest : Boundary rest') : farthest (w ++ rest') = some (rule, w.length) := by
  obtain ⟨before, after, order, reached, stronger, weaker⟩ := order_of_farthest wins
  have pos : 0 < w.length := pos_of_farthest wins
  have ne : w ≠ [] := List.length_pos_iff.mp pos
  have bound := reach_le_of_boundary ne hrest
  have same : rule.reach (w ++ rest') = w.length :=
    Nat.le_antisymm (bound rule) ((spells_of_reach pos reached.symm).le_reach rest')
  rw [← same]
  refine farthest_eq_some order ?_ ?_ ?_
  · rwa [same]
  · intro r mem
    rw [same]
    refine Nat.lt_of_le_of_ne (bound r) fun equal => ?_
    exact Nat.not_lt.mpr ((spells_of_reach pos equal).le_reach rest) (stronger r mem)
  · intro r _
    rw [same]
    exact bound r

/-- What no rule matches is not matched in front of a boundary. -/
theorem farthest_cons_eq_none {c : Char} {rest' : List Char}
    (unmatched : farthest (c :: rest) = none) (hrest : Boundary rest') :
    farthest (c :: rest') = none := by
  apply farthest_eq_none
  intro r
  by_contra matched
  obtain ⟨u, pre, length, spelled⟩ := exists_spelled (Nat.pos_of_ne_zero matched)
  have short : u.length ≤ [c].length :=
    length ▸ reach_le_of_boundary (List.cons_ne_nil c []) hrest r
  have inside : u <+: [c] :=
    List.prefix_of_prefix_length_le pre (List.prefix_append [c] rest') short
  have text : u = [c] :=
    inside.eq_of_length (Nat.le_antisymm short (List.length_pos_iff.mpr spelled.ne_nil))
  have reached := spelled.le_reach rest
  rw [text, List.singleton_append, reach_of_farthest_eq_none unmatched r] at reached
  exact Nat.not_lt_zero 0 reached

end Rule

/-! ## Tokens that stand for themselves -/

namespace Token

/-- Whether the character neither separates tokens nor opens a comment. -/
def Solid (c : Char) : Prop := isGap c = false ∧ opensComment c = false

/-- Whether the text is a token of the kind in front of each boundary. -/
structure Stands (kind : Kind) (w : List Char) : Prop where
  solid : ∀ c ∈ w, Solid c
  first : ∀ rest, Boundary rest → first (w ++ rest) = (kind, w.length)

theorem solid_of_spells {rule : Rule} {w : List Char} (h : rule.Spells w) : ∀ c ∈ w, Solid c := by
  obtain all | rfl | rfl | rfl := h.continuesWord_or
  · exact fun c mem => not_gap_of_continuesWord (all c mem)
  all_goals simp [Solid, isGap, opensComment]

/-- The first token of a text stands for itself. -/
theorem stands_first {c : Char} {rest : List Char} (solid : Solid c) :
    Stands (first (c :: rest)).1 ((c :: rest).take (first (c :: rest)).2) := by
  cases wins : Rule.farthest (c :: rest) with
  | none =>
    have found : first (c :: rest) = (.stray, 1) := by rw [first, wins]
    rw [found]
    refine ⟨by simpa using solid, fun tail hrest => ?_⟩
    show first (c :: tail) = (.stray, 1)
    rw [first, Rule.farthest_cons_eq_none wins hrest]
  | some winner =>
    obtain ⟨rule, n⟩ := winner
    obtain ⟨before, after, order, reached, -, -⟩ := Rule.order_of_farthest wins
    have pos := Rule.pos_of_farthest wins
    rw [reached] at pos
    obtain ⟨w, ⟨tail, text⟩, length, spelled⟩ := Rule.exists_spelled pos
    rw [← reached] at length
    rw [← text, ← length] at wins
    have found : ∀ rest, Rule.farthest (w ++ rest) = some (rule, w.length) →
        first (w ++ rest) = (rule.kind w, w.length) := by
      intro rest wins
      simp only [first, wins, List.take_left]
    rw [← text, found tail wins, List.take_left]
    exact ⟨solid_of_spells spelled, fun rest hrest => found rest (Rule.farthest_append wins hrest)⟩

/-- A text that stands for itself is scanned as one token in front of a boundary. -/
theorem Stands.scanFrom {kind : Kind} {w : List Char} (h : Stands kind w) (start : Nat)
    {rest : List Char} (hrest : Boundary rest) :
    scanFrom start (w ++ rest) =
      ⟨kind, String.ofList w, start⟩ :: scanFrom (start + Text.byteLength w) rest :=
  scanFrom_of_first start (fun c head => h.solid c (List.mem_of_mem_head? head))
    (h.first rest hrest)

/-- Every token of a text stands for itself, and its characters are some of the text. -/
theorem stands_of_mem_scanFrom {t : Token} {start : Nat} {cs : List Char}
    (mem : t ∈ scanFrom start cs) : Stands t.kind t.text.toList ∧ ∀ c ∈ t.text.toList, c ∈ cs := by
  induction start, cs using scanFrom.induct with
  | case1 start => simp [scanFrom_nil] at mem
  | case2 start c rest gap ih =>
    rw [scanFrom_gap start gap] at mem
    obtain ⟨stands, inside⟩ := ih mem
    exact ⟨stands, fun d hd => List.mem_cons_of_mem c (inside d hd)⟩
  | case3 start c rest gap comment ih =>
    rw [Token.scanFrom, if_neg gap, if_pos comment] at mem
    obtain ⟨stands, inside⟩ := ih mem
    refine ⟨stands, fun d hd => List.mem_cons_of_mem c ?_⟩
    exact (List.dropWhile_suffix _).subset (inside d hd)
  | case4 start c rest gap comment taken ih =>
    rw [Token.scanFrom, if_neg gap, if_neg comment] at mem
    obtain rfl | mem := List.mem_cons.mp mem
    · have solid : Solid c := ⟨by simpa using gap, by simpa using comment⟩
      rw [String.toList_ofList]
      exact ⟨stands_first solid, fun d hd => List.mem_of_mem_take hd⟩
    · obtain ⟨stands, inside⟩ := ih mem
      exact ⟨stands, fun d hd => List.mem_of_mem_drop (inside d hd)⟩

end Token

end ByteMachine.Source
