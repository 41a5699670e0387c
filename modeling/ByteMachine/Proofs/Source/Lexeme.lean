import Mathlib
import ByteMachine.Source.Token

/-
  One token at a time. Characters that a word may go on with form runs, and no
  rule reaches past the end of the run it starts in. So a run with something
  else behind it is one token, and which one is decided by the first rule that
  reaches its end.
-/

namespace ByteMachine.Source

/-- Whether the text cannot go on with a word that ends right before it. -/
def Boundary (rest : List Char) : Prop := ∀ c ∈ rest.head?, continuesWord c = false

@[simp] theorem boundary_nil : Boundary [] := by simp [Boundary]

@[simp] theorem boundary_cons {c : Char} {rest : List Char} :
    Boundary (c :: rest) ↔ continuesWord c = false := by simp [Boundary]

/-! ## Runs of characters -/

section Runs
variable {p q : Char → Bool}

theorem runLength_cons (c : Char) (cs : List Char) :
    runLength p (c :: cs) = if p c then 1 + runLength p cs else 0 := by
  unfold runLength
  rw [List.takeWhile_cons]
  split <;> simp [Nat.add_comm]

theorem runLength_le_of_imp (h : ∀ c, p c = true → q c = true) (cs : List Char) :
    runLength p cs ≤ runLength q cs := by
  induction cs with
  | nil => simp [runLength]
  | cons c cs ih =>
    rw [runLength_cons, runLength_cons]
    by_cases hc : p c = true
    · rw [if_pos hc, if_pos (h c hc)]; omega
    · rw [if_neg hc]; omega

/-- A run ends where something else begins. -/
theorem runLength_append {w rest : List Char} (all : ∀ c ∈ w, p c = true)
    (stop : ∀ c ∈ rest.head?, p c = false) : runLength p (w ++ rest) = w.length := by
  induction w with
  | nil =>
    cases rest with
    | nil => rfl
    | cons c rest => rw [List.nil_append, runLength_cons, stop c rfl]; rfl
  | cons c w ih =>
    rw [List.cons_append, runLength_cons, if_pos (all c (by simp)),
      ih fun d hd => all d (by simp [hd]), List.length_cons, Nat.add_comm]

end Runs

/-! ## Word characters -/

/-- Characters that a test tells apart are different. -/
theorem ne_of_test {p : Char → Bool} {c : Char} (h : p c = true) (d : Char) (hd : p d = false) :
    c ≠ d := by
  rintro rfl
  rw [h] at hd
  cases hd

theorem continuesWord_of_startsWord {c : Char} (h : startsWord c = true) :
    continuesWord c = true := by
  simp only [startsWord, continuesWord, Char.isAlphanum, Bool.or_eq_true] at h ⊢
  exact h.imp_left .inl

theorem continuesWord_of_isDigit {c : Char} (h : c.isDigit = true) : continuesWord c = true := by
  simp [continuesWord, Char.isAlphanum, h]

theorem continuesWord_of_isHexDigit {c : Char} (h : Text.isHexDigit c = true) :
    continuesWord c = true := by
  simp only [Text.isHexDigit, Bool.or_eq_true, Bool.and_eq_true, decide_eq_true_eq, Char.le_def,
    UInt32.le_iff_toNat_le] at h
  simp only [continuesWord, Char.isAlphanum, Char.isAlpha, Char.isUpper, Char.isLower,
    Bool.or_eq_true, Bool.and_eq_true, decide_eq_true_eq, UInt32.le_iff_toNat_le, ge_iff_le]
  have : 'F'.val.toNat = 70 := rfl
  have : 'Z'.val.toNat = 90 := rfl
  have : 'f'.val.toNat = 102 := rfl
  have : 'z'.val.toNat = 122 := rfl
  rcases h with (h | h) | h
  · exact .inl (.inr h)
  · exact .inl (.inl (.inr ⟨h.1, by omega⟩))
  · exact .inl (.inl (.inl ⟨h.1, by omega⟩))

theorem continuesWord_of_isBit {c : Char} (h : Text.isBit c = true) : continuesWord c = true := by
  simp only [Text.isBit, Bool.or_eq_true, beq_iff_eq] at h
  rcases h with rfl | rfl <;> rfl

/-- A character of a word does not separate tokens. -/
theorem not_gap_of_continuesWord {c : Char} (h : continuesWord c = true) :
    Token.isGap c = false ∧ Token.opensComment c = false := by
  have apart := ne_of_test h
  simp [Token.isGap, Token.opensComment, apart ' ' rfl, apart '\t' rfl, apart '\r' rfl,
    apart ';' rfl, apart '#' rfl]

/-! ## How far rules reach -/

namespace Rule

/-- A run with a mark of word characters in front is as much longer. -/
theorem runLength_marked {mark : List Char} (hm : mark.all continuesWord = true) (cs : List Char) :
    runLength continuesWord (mark ++ cs) = mark.length + runLength continuesWord cs := by
  induction mark with
  | nil => simp
  | cons c mark ih =>
    rw [List.all_cons, Bool.and_eq_true] at hm
    rw [List.cons_append, runLength_cons, if_pos hm.1, ih hm.2, List.length_cons]
    omega

theorem afterMark_le (mark : List Char) (hm : mark.all continuesWord = true) {p : Char → Bool}
    (hp : ∀ c, p c = true → continuesWord c = true) (cs : List Char) :
    afterMark mark.length p cs ≤ runLength continuesWord (mark ++ cs) := by
  have := runLength_le_of_imp hp cs
  rw [runLength_marked hm, afterMark]
  split <;> omega

/-- No rule reaches past the run of word characters that it starts in. -/
theorem reach_le_run (rule : Rule) {c : Char} (cs : List Char) (hc : continuesWord c = true) :
    rule.reach (c :: cs) ≤ runLength continuesWord (c :: cs) := by
  -- Whatever a rule accepts, a word may go on with; punctuation is at most one character.
  have one : runLength continuesWord (c :: cs) = 1 + runLength continuesWord cs := by
    rw [runLength_cons, if_pos hc]
  unfold reach
  split
  case h_1 cs heq =>
    cases heq
    exact afterMark_le ['r'] rfl (fun _ => continuesWord_of_isDigit) cs
  case h_2 cs heq =>
    cases heq
    exact afterMark_le ['R'] rfl (fun _ => continuesWord_of_isDigit) cs
  case h_3 d ds _ _ heq =>
    cases heq
    split
    · next spelled =>
      have second : continuesWord d = true := by rcases spelled.2 with rfl | rfl <;> rfl
      rw [one, runLength_cons, if_pos second]
      omega
    · omega
  case h_4 heq =>
    cases heq
    split <;> omega
  case h_5 => exact runLength_le_of_imp (fun _ => continuesWord_of_isDigit) _
  case h_6 cs heq =>
    cases heq
    exact afterMark_le ['0', 'x'] rfl (fun _ => continuesWord_of_isHexDigit) cs
  case h_7 cs heq =>
    cases heq
    exact afterMark_le ['0', 'X'] rfl (fun _ => continuesWord_of_isHexDigit) cs
  case h_8 cs heq =>
    cases heq
    exact afterMark_le ['0', 'b'] rfl (fun _ => continuesWord_of_isBit) cs
  case h_9 cs heq =>
    cases heq
    exact afterMark_le ['0', 'B'] rfl (fun _ => continuesWord_of_isBit) cs
  case h_10 | h_11 | h_12 | h_13 => omega

/-- Neither a register nor a word starts with a digit. -/
theorem reach_of_isDigit {c : Char} (hc : c.isDigit = true) (cs : List Char) :
    register.reach (c :: cs) = 0 ∧ word.reach (c :: cs) = 0 := by
  have apart := ne_of_test hc
  constructor
  · unfold reach
    split
    case h_1 heq => cases heq; exact absurd rfl (apart 'r' rfl)
    case h_2 heq => cases heq; exact absurd rfl (apart 'R' rfl)
    case h_3 heq =>
      cases heq
      exact if_neg fun spelled => spelled.1.elim (apart 's' rfl) (apart 'S' rfl)
    all_goals simp_all
  · have starts : startsWord c = false := by
      have small : c.toNat ≤ 57 := (Char.isDigit_iff_toNat.mp hc).2
      have noUpper : ¬ 65 ≤ c.toNat := by omega
      have noLower : ¬ 97 ≤ c.toNat := by omega
      simp [startsWord, Char.isAlpha, Char.isUpper, Char.isLower, UInt32.le_iff_toNat_le,
        apart '_' rfl, noUpper, noLower]
    rw [reach, starts]
    rfl

/-! ## The rule that wins -/

theorem foldl_better_lt {cs : List Char} {n : Nat} {rules : List Rule}
    {best : Option (Rule × Nat)} (hbest : (best.map (·.2)).getD 0 < n)
    (h : ∀ r ∈ rules, r.reach cs < n) : ((rules.foldl (better cs) best).map (·.2)).getD 0 < n := by
  induction rules generalizing best with
  | nil => exact hbest
  | cons r rules ih =>
    refine ih ?_ fun x hx => h x (by simp [hx])
    have := h r (by simp)
    unfold better
    split
    · simpa using this
    · exact hbest

theorem foldl_better_of_le {cs : List Char} {f : Rule × Nat} {rules : List Rule}
    (h : ∀ r ∈ rules, r.reach cs ≤ f.2) : rules.foldl (better cs) (some f) = some f := by
  induction rules with
  | nil => rfl
  | cons r rules ih =>
    have short : ¬ r.reach cs > f.2 := Nat.not_lt.mpr (h r (by simp))
    rw [List.foldl_cons, better, Option.map_some, Option.getD_some, if_neg short]
    exact ih fun x hx => h x (by simp [hx])

/-- A rule wins that reaches farther than the rules before it and as far as those after it. -/
theorem farthest_eq_some {cs : List Char} {rule : Rule} {before after : List Rule}
    (order : all = before ++ rule :: after) (pos : 0 < rule.reach cs)
    (hbefore : ∀ r ∈ before, r.reach cs < rule.reach cs)
    (hafter : ∀ r ∈ after, r.reach cs ≤ rule.reach cs) :
    farthest cs = some (rule, rule.reach cs) := by
  have wins : ((before.foldl (better cs) none).map (·.2)).getD 0 < rule.reach cs :=
    foldl_better_lt (by simpa using pos) hbefore
  rw [farthest, order, List.foldl_append, List.foldl_cons, better, if_pos wins]
  exact foldl_better_of_le hafter

/-- Where no rule matches, none wins. -/
theorem farthest_eq_none {cs : List Char} (h : ∀ rule : Rule, rule.reach cs = 0) :
    farthest cs = none := by
  have none : ∀ rules : List Rule, rules.foldl (better cs) none = none := by
    intro rules
    induction rules with
    | nil => rfl
    | cons r rules ih =>
      rw [List.foldl_cons, better, if_neg (by simp [h r])]
      exact ih
  exact none all

end Rule

/-! ## Tokens -/

namespace Token

theorem scanFrom_nil (start : Nat) : scanFrom start [] = [] := by rw [scanFrom]

theorem scanFrom_gap (start : Nat) {c : Char} (h : isGap c = true) (rest : List Char) :
    scanFrom start (c :: rest) = scanFrom (start + 1) rest := by
  rw [scanFrom, if_pos h]

/-- The token at the front of a text, when that is the characters `w`. -/
theorem scanFrom_of_first (start : Nat) {w rest : List Char} {kind : Kind}
    (solid : ∀ c ∈ w.head?, isGap c = false ∧ opensComment c = false)
    (found : first (w ++ rest) = (kind, w.length)) :
    scanFrom start (w ++ rest) =
      ⟨kind, String.ofList w, start⟩ :: scanFrom (start + Text.byteLength w) rest := by
  cases w with
  | nil =>
    have pos := first_pos ([] ++ rest)
    rw [found] at pos
    exact absurd pos (Nat.lt_irrefl 0)
  | cons c w =>
    obtain ⟨gap, comment⟩ := solid c rfl
    rw [List.cons_append] at found ⊢
    rw [scanFrom, if_neg (by simp [gap]), if_neg (by simp [comment]), found]
    simp only [← List.cons_append, List.take_left, List.drop_left]

/-- The token at the front of a text, when a rule wins with the characters `w`. -/
theorem scanFrom_of_farthest (start : Nat) {w rest : List Char} {rule : Rule}
    (solid : ∀ c ∈ w.head?, isGap c = false ∧ opensComment c = false)
    (wins : Rule.farthest (w ++ rest) = some (rule, w.length)) :
    scanFrom start (w ++ rest) =
      ⟨rule.kind w, String.ofList w, start⟩ :: scanFrom (start + Text.byteLength w) rest := by
  apply scanFrom_of_first start solid
  simp only [first, wins, List.take_left]

/-- A run of word characters is one token, of the first rule that reaches its end. -/
theorem scanFrom_run (start : Nat) {w rest : List Char} {rule : Rule} {before after : List Rule}
    (hw : ∀ c ∈ w, continuesWord c = true) (hrest : Boundary rest) (ne : w ≠ [])
    (order : Rule.all = before ++ rule :: after) (reach : rule.reach (w ++ rest) = w.length)
    (hbefore : ∀ r ∈ before, r.reach (w ++ rest) ≠ w.length) :
    scanFrom start (w ++ rest) =
      ⟨rule.kind w, String.ofList w, start⟩ :: scanFrom (start + Text.byteLength w) rest := by
  have bound : ∀ r : Rule, r.reach (w ++ rest) ≤ w.length := by
    intro r
    cases w with
    | nil => exact absurd rfl ne
    | cons c w =>
      have := r.reach_le_run (w ++ rest) (hw c (by simp))
      rwa [← List.cons_append, runLength_append hw hrest] at this
  refine scanFrom_of_farthest start (fun c hc => ?_) ?_
  · exact not_gap_of_continuesWord (hw c (List.mem_of_mem_head? hc))
  · rw [← reach]
    refine Rule.farthest_eq_some order ?_ (fun r hr => ?_) (fun r _ => ?_)
    · rw [reach]; exact List.length_pos_iff.mpr ne
    · have := bound r
      have := hbefore r hr
      omega
    · rw [reach]; exact bound r

/-- A word that is no name of a register is a token. -/
theorem scanFrom_word (start : Nat) {c : Char} {w rest : List Char} (hc : startsWord c = true)
    (hw : ∀ d ∈ w, continuesWord d = true) (hrest : Boundary rest)
    (free : Rule.register.reach (c :: w ++ rest) ≠ (c :: w).length) :
    scanFrom start (c :: w ++ rest) =
      ⟨.word, String.ofList (c :: w), start⟩ :: scanFrom (start + Text.byteLength (c :: w)) rest := by
  have all : ∀ d ∈ c :: w, continuesWord d = true := by
    intro d hd
    rcases List.mem_cons.mp hd with rfl | hd
    · exact continuesWord_of_startsWord hc
    · exact hw d hd
  have order : Rule.all = [.register] ++ .word :: Rule.all.drop 2 := rfl
  refine scanFrom_run start all hrest (by simp) order ?_ (by simpa using free)
  rw [List.cons_append, Rule.reach, if_pos hc, runLength_append hw hrest, List.length_cons,
    Nat.add_comm]

/-- Digits end where a word could not go on. -/
theorem runLength_digits {digits rest : List Char} (hd : ∀ c ∈ digits, c.isDigit = true)
    (hrest : Boundary rest) : runLength Char.isDigit (digits ++ rest) = digits.length := by
  refine runLength_append hd fun c hc => Bool.eq_false_iff.mpr fun digit => ?_
  have := continuesWord_of_isDigit digit
  rw [hrest c hc] at this
  cases this

/-- A register is a token, written with an upper-case letter. -/
theorem scanFrom_register (start : Nat) {digits rest : List Char} (ne : digits ≠ [])
    (hd : ∀ c ∈ digits, c.isDigit = true) (hrest : Boundary rest) :
    scanFrom start ('R' :: digits ++ rest) =
      ⟨.bounded .register (Text.numeral 10 digits), String.ofList ('R' :: digits), start⟩
        :: scanFrom (start + Text.byteLength ('R' :: digits)) rest := by
  have all : ∀ c ∈ 'R' :: digits, continuesWord c = true := by
    intro c hc
    rcases List.mem_cons.mp hc with rfl | hc
    · rfl
    · exact continuesWord_of_isDigit (hd c hc)
  have order : Rule.all = [] ++ .register :: Rule.all.drop 1 := rfl
  have some : digits.length ≠ 0 := mt List.length_eq_zero_iff.mp ne
  refine scanFrom_run start all hrest (by simp) order ?_ (by simp)
  rw [List.cons_append, Rule.reach, afterMark, runLength_digits hd hrest, if_neg some,
    List.length_cons, Nat.add_comm]

/-- A decimal number is a token. -/
theorem scanFrom_decimal (start : Nat) {digits rest : List Char} (ne : digits ≠ [])
    (hd : ∀ c ∈ digits, c.isDigit = true) (hrest : Boundary rest) :
    scanFrom start (digits ++ rest) =
      ⟨.bounded .decimal (Text.numeral 10 digits), String.ofList digits, start⟩
        :: scanFrom (start + Text.byteLength digits) rest := by
  have all : ∀ c ∈ digits, continuesWord c = true := fun c hc => continuesWord_of_isDigit (hd c hc)
  have order : Rule.all = [.register, .word] ++ .decimal :: Rule.all.drop 3 := rfl
  refine scanFrom_run start all hrest ne order (runLength_digits hd hrest) ?_
  obtain ⟨c, more, rfl⟩ := List.exists_cons_of_ne_nil ne
  obtain ⟨noRegister, noWord⟩ := Rule.reach_of_isDigit (hd c (by simp)) (more ++ rest)
  simp [noRegister, noWord]

/-- A comma is a token. -/
theorem scanFrom_comma (start : Nat) (rest : List Char) :
    scanFrom start (',' :: rest) = ⟨.comma, ",", start⟩ :: scanFrom (start + 1) rest := by
  have wins : Rule.farthest ([','] ++ rest) = some (.comma, 1) := by
    cases rest <;> rfl
  refine scanFrom_of_farthest start (fun c hc => ?_) wins
  cases hc
  exact ⟨rfl, rfl⟩

/-- A character that no rule starts with is stray. -/
theorem scanFrom_stray (start : Nat) {c : Char} {rest : List Char}
    (none : ∀ rule : Rule, rule.reach (c :: rest) = 0) (gap : isGap c = false)
    (comment : opensComment c = false) :
    scanFrom start (c :: rest) =
      ⟨.stray, String.ofList [c], start⟩ :: scanFrom (start + c.utf8Size) rest := by
  have found : first (c :: rest) = (.stray, 1) := by
    rw [first, Rule.farthest_eq_none none]
  have solid : ∀ d ∈ [c].head?, isGap d = false ∧ opensComment d = false := by
    rintro d ⟨⟩
    exact ⟨gap, comment⟩
  exact scanFrom_of_first start solid found

end Token

end ByteMachine.Source
