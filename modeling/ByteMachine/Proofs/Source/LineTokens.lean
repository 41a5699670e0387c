import ByteMachine.Proofs.Source.Grammar
import ByteMachine.Proofs.Source.Tiling

/-
  Scanning line by line. The tokens of a text depend on where it starts only in their
  places (`scanFrom_moved`), and a newline ends every token and every comment in front of
  it. So scanning two texts with a newline between gives the tokens of the one, the
  newline, and the tokens of the other, moved (`scan_newline`). Cut at its newlines, what
  is scanned from a source are the tokens of its lines, each line scanned by itself
  (`tokenLines_eq`).
-/

namespace ByteMachine.Source

namespace Token

/-- The token so many bytes further on. -/
def moved (bytes : Nat) (t : Token) : Token := { t with start := t.start + bytes }

/-- The tokens of the text, cut at its newlines. -/
def tokenLines (cs : List Char) : List (List Token) :=
  (scanFrom 0 cs).splitOnP (·.kind == .newline)

variable {cs line rest : List Char} {ts : List Token}

/-! ## Tokens further on -/

theorem map_moved_zero (ts : List Token) : ts.map (moved 0) = ts := List.map_id ts

theorem moved_moved (a b : Nat) (ts : List Token) :
    (ts.map (moved a)).map (moved b) = ts.map (moved (b + a)) := by
  rw [List.map_map]
  refine List.map_congr_left fun t _ => ?_
  simp only [Function.comp_apply, moved, Nat.add_assoc, Nat.add_comm a b]

/-- A text has the same tokens further on. -/
theorem scanFrom_moved (start bytes : Nat) (cs : List Char) :
    scanFrom (start + bytes) cs = (scanFrom start cs).map (moved bytes) := by
  induction start, cs using scanFrom.induct with
  | case1 start => rw [scanFrom_nil, scanFrom_nil, List.map_nil]
  | case2 start c rest gap ih =>
    rw [scanFrom_gap _ gap, scanFrom_gap _ gap, ← ih, Nat.add_right_comm]
  | case3 start c rest gap comment ih =>
    rw [scanFrom_comment _ comment, scanFrom_comment _ comment, ← ih, Nat.add_right_comm _ bytes,
      Nat.add_right_comm _ bytes]
  | case4 start c rest gap comment taken ih =>
    rw [scanFrom_solid _ gap comment, scanFrom_solid _ gap comment, List.map_cons, ← ih,
      Nat.add_right_comm]
    rfl

theorem scanFrom_newline (start : Nat) (rest : List Char) :
    scanFrom start ('\n' :: rest) = ⟨.newline, "\n", start⟩ :: scanFrom (start + 1) rest := by
  have wins : Rule.farthest (['\n'] ++ rest) = some (.newline, 1) := by
    cases rest <;> rfl
  refine scanFrom_of_farthest start (fun c hc => ?_) wins
  cases hc
  exact ⟨rfl, rfl⟩

/-- Neither a token nor a comment goes on behind a newline. -/
theorem scanFrom_append_newline (start : Nat) (cs rest : List Char) :
    scanFrom start (cs ++ '\n' :: rest) =
      scanFrom start cs ++ ⟨.newline, "\n", start + Text.byteLength cs⟩ ::
        (scanFrom 0 rest).map (moved (start + Text.byteLength cs + 1)) := by
  have unseen : ∀ start, scanFrom (start + Text.byteLength (Text.beforeNewline ('\n' :: rest)))
      (Text.fromNewline ('\n' :: rest)) = scanFrom start ('\n' :: rest) := fun _ => rfl
  rw [scanFrom_append (by simp [continuesWord]) unseen, scanFrom_newline, ← scanFrom_moved,
    Nat.zero_add]

/-- With a newline between, the tokens of two texts follow one another. -/
theorem scan_newline (s t : String) : scan (s ++ "\n" ++ t) =
    scan s ++ ⟨.newline, "\n", Text.byteLength s.toList⟩ ::
      (scan t).map (moved (Text.byteLength s.toList + 1)) := by
  have text : (s ++ "\n" ++ t).toList = s.toList ++ '\n' :: t.toList := by simp
  rw [scan, text, scanFrom_append_newline, Nat.zero_add]
  rfl

/-! ## Tokens cut at newlines -/

/-- Cutting does not see changes that keep the separators. -/
theorem splitOnP_map {α : Type} {p : α → Bool} {f : α → α} (same : ∀ a, p (f a) = p a) (l : List α) :
    (l.map f).splitOnP p = (l.splitOnP p).map (List.map f) := by
  induction l with
  | nil => simp
  | cons a l ih =>
    rw [List.map_cons, List.splitOnP_cons_eq_if_modifyHead, List.splitOnP_cons_eq_if_modifyHead,
      same, ih]
    split
    · rfl
    · cases l.splitOnP p <;> rfl

theorem eq_of_newline {w : List Char} (h : KindOf w .newline) : w = ['\n'] := by
  cases h with
  | number carries => cases carries
  | newline => rfl

/-- A text without a newline has no token that is one. -/
theorem not_newline_of_flat {start : Nat} (flat : '\n' ∉ cs) {t : Token} (mem : t ∈ scanFrom start cs) :
    t.kind ≠ .newline := by
  intro kind
  obtain ⟨before, after, rfl, -, munched⟩ := (tiles_scanFrom start cs).exists_place mem
  rw [kind] at munched
  cases munched with
  | longest kindOf => exact flat (by simp [eq_of_newline kindOf])

theorem tokenLines_flat (flat : '\n' ∉ cs) : tokenLines cs = [scanFrom 0 cs] := by
  apply List.splitOnP_eq_singleton
  intro t mem
  simpa using not_newline_of_flat flat mem

/-- The tokens of a line are cut off at the newline behind it. -/
theorem tokenLines_break (flat : '\n' ∉ line) (rest : List Char) :
    tokenLines (line ++ '\n' :: rest) = scanFrom 0 line ::
      (tokenLines rest).map (List.map (moved (Text.byteLength line + 1))) := by
  have first : (scanFrom 0 line).splitOnP (·.kind == .newline) = [scanFrom 0 line] :=
    tokenLines_flat flat
  have kept : ∀ t, ((moved (Text.byteLength line + 1) t).kind == .newline) = (t.kind == .newline) :=
    fun _ => rfl
  rw [tokenLines, scanFrom_append_newline, List.splitOnP_append_cons _ _ rfl, first, Nat.zero_add,
    splitOnP_map kept]
  rfl

theorem length_tokenLines (cs : List Char) : (tokenLines cs).length = cs.count '\n' + 1 := by
  induction cs using Text.induction_lines with
  | last cs flat => rw [tokenLines_flat flat, List.length_singleton, List.count_eq_zero.mpr flat]
  | cons line rest flat ih =>
    rw [tokenLines_break flat, List.length_cons, List.length_map, ih, List.count_append,
      List.count_eq_zero.mpr flat, List.count_cons_self, Nat.zero_add]

/-! ## Lines -/

/-- Whether the line with so many lines in front of it stands in the text behind `before`. -/
structure LineAt (cs : List Char) (k : Nat) (line before : List Char) : Prop where
  piece : before ++ line <+: cs
  begins : ∀ c ∈ before.getLast?, c = '\n'
  number : before.count '\n' = k

/-- The first line stands at the beginning of the text. -/
theorem LineAt.first (h : line <+: cs) : LineAt cs 0 line [] where
  piece := h
  begins := nofun
  number := rfl

/-- Behind a line the numbers go on. -/
theorem LineAt.behind {k : Nat} {front before : List Char} (flat : '\n' ∉ front)
    (h : LineAt rest k line before) :
    LineAt (front ++ '\n' :: rest) (k + 1) line (front ++ '\n' :: before) where
  piece := by simpa using h.piece
  begins := by
    intro c last
    rw [List.getLast?_append_of_ne_nil _ (List.cons_ne_nil _ _), List.getLast?_cons,
      Option.mem_some] at last
    cases behind : before.getLast? with
    | none => simpa [behind] using last.symm
    | some d =>
      rw [behind, Option.getD_some] at last
      exact h.begins c (last ▸ behind)
  number := by
    rw [List.count_append, List.count_eq_zero.mpr flat, List.count_cons_self, h.number,
      Nat.zero_add]

/-- Whether the tokens are those of a line, where the line stands in the text. -/
def TokensOf (cs : List Char) (k : Nat) (line : List Char) (ts : List Token) : Prop :=
  ∃ before, LineAt cs k line before ∧
    ts = (scanFrom 0 line).map (moved (Text.byteLength before))

theorem tokensOf_first (h : line <+: cs) : TokensOf cs 0 line (scanFrom 0 line) :=
  ⟨[], .first h, (map_moved_zero _).symm⟩

theorem TokensOf.behind {k : Nat} {front : List Char} (flat : '\n' ∉ front)
    (h : TokensOf rest k line ts) : TokensOf (front ++ '\n' :: rest) (k + 1) line
      (ts.map (moved (Text.byteLength front + 1))) := by
  obtain ⟨before, here, rfl⟩ := h
  refine ⟨_, here.behind flat, ?_⟩
  rw [moved_moved, Text.byteLength_append, Text.byteLength, Nat.add_assoc]
  rfl

theorem scanFrom_dropReturn (line : List Char) :
    scanFrom 0 (Text.dropReturn line) = scanFrom 0 line := by
  simpa only [scan, String.toList_ofList] using scan_dropReturn line

/-- Each line of a text has its tokens among those of the text, and what is left behind the last
line has none. -/
theorem tokenLines_eq (cs : List Char) :
    (∀ k line, (Text.lines cs)[k]? = some line →
      ∃ ts, (tokenLines cs)[k]? = some ts ∧ TokensOf cs k line ts) ∧
    ∀ k ts, (tokenLines cs)[k]? = some ts → (Text.lines cs).length ≤ k → ts = [] := by
  induction cs using Text.induction_lines with
  | last cs flat =>
    rw [tokenLines_flat flat, Text.lines_of_last (Text.fromNewline_of_not_mem flat)]
    by_cases none : cs = []
    · rw [if_pos none, none, scanFrom_nil]
      refine ⟨nofun, fun k ts here _ => ?_⟩
      exact List.mem_singleton.mp (List.mem_of_getElem? here)
    · rw [if_neg none]
      constructor
      · intro k line here
        cases k with
        | zero =>
          obtain rfl := Option.some.inj here
          exact ⟨_, rfl, tokensOf_first List.prefix_rfl⟩
        | succ k => cases here
      · intro k ts here long
        cases k with
        | zero => exact absurd long (Nat.not_succ_le_zero 0)
        | succ k => cases here
  | cons front rest flat ih =>
    obtain ⟨found, empty⟩ := ih
    rw [tokenLines_break flat, Text.lines_break flat]
    constructor
    · intro k line here
      cases k with
      | zero =>
        obtain rfl := Option.some.inj here
        refine ⟨_, rfl, ?_⟩
        rw [← scanFrom_dropReturn]
        exact tokensOf_first ((Text.prefix_of_dropReturn front).trans (List.prefix_append _ _))
      | succ k =>
        obtain ⟨ts, tokens, placed⟩ := found k line here
        refine ⟨_, ?_, placed.behind flat⟩
        rw [List.getElem?_cons_succ, List.getElem?_map, tokens, Option.map_some]
    · intro k ts here long
      cases k with
      | zero => exact absurd long (Nat.not_succ_le_zero _)
      | succ k =>
        rw [List.getElem?_cons_succ, List.getElem?_map, Option.map_eq_some_iff] at here
        obtain ⟨ts, tokens, rfl⟩ := here
        rw [empty k ts tokens (Nat.le_of_succ_le_succ long), List.map_nil]

/-- On a line there is nothing behind its first line. -/
theorem firstLine_of_flat (flat : '\n' ∉ line) : firstLine (String.ofList line) = scanFrom 0 line := by
  rw [firstLine, scan, String.toList_ofList, List.takeWhile_eq_self_iff]
  intro t mem
  simpa using not_newline_of_flat flat mem

/-- The tokens of two texts with a newline between are those of the first, the newline, and those of
the second so many bytes further on. So the tokens of a source, cut at its newlines, are those of its
lines, each read by itself and moved to where the line stands; behind the last line there are none. -/
theorem scan_by_lines :
    (∀ s t : String, scan (s ++ "\n" ++ t) =
      scan s ++ ⟨.newline, "\n", Text.byteLength s.toList⟩ ::
        (scan t).map (moved (Text.byteLength s.toList + 1))) ∧
    ∀ source : String, (tokenLines source.toList).length = source.toList.count '\n' + 1 ∧
      (∀ k line, (Text.lines source.toList)[k]? = some line →
        ∃ before, LineAt source.toList k line before ∧ (tokenLines source.toList)[k]? =
          some ((firstLine (String.ofList line)).map (moved (Text.byteLength before)))) ∧
      ∀ k ts, (tokenLines source.toList)[k]? = some ts →
        (Text.lines source.toList).length ≤ k → ts = [] := by
  refine ⟨scan_newline, fun source => ?_⟩
  obtain ⟨found, empty⟩ := tokenLines_eq source.toList
  refine ⟨length_tokenLines source.toList, fun k line here => ?_, empty⟩
  obtain ⟨ts, tokens, before, placed, rfl⟩ := found k line here
  have flat := Text.not_newline_of_mem_lines (List.mem_of_getElem? here)
  exact ⟨before, placed, by rw [tokens, firstLine_of_flat flat]⟩

/-- The comment ends at the return before the newline, the second line is empty, and the character
behind it is the tenth byte. -/
example : tokenLines "a: ; x\r\n\né".toList =
    [[⟨.word, "a", 0⟩, ⟨.colon, ":", 1⟩], [], [⟨.stray, "é", 9⟩]] := by cbv

end Token

end ByteMachine.Source
