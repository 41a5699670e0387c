import ByteMachine.Proofs.Text.Numeral
import ByteMachine.Text.Lines

/-
  Texts made of lines. Lines that are written one after the other, each with a
  newline behind it, are the lines of what was written, as long as none of them
  holds a character that ends a line. No number does.
-/

namespace ByteMachine.Text

/-- Whether the text holds nothing that ends a line. -/
def OneLine (cs : List Char) : Prop := ∀ c ∈ cs, c ≠ '\n' ∧ c ≠ '\r'

instance (cs : List Char) : Decidable (OneLine cs) := List.decidableBAll _ cs

@[simp] theorem oneLine_nil : OneLine [] := by simp [OneLine]

@[simp] theorem oneLine_cons {c : Char} {cs : List Char} :
    OneLine (c :: cs) ↔ (c ≠ '\n' ∧ c ≠ '\r') ∧ OneLine cs :=
  List.forall_mem_cons

@[simp] theorem oneLine_append {a b : List Char} : OneLine (a ++ b) ↔ OneLine a ∧ OneLine b :=
  List.forall_mem_append

theorem oneLine_digitChar : ∀ d < 16,
    OneLine [Nat.digitChar d] ∧ OneLine [(Nat.digitChar d).toUpper] := by decide +kernel

@[simp] theorem oneLine_decimal (n : Nat) : OneLine (Nat.toDigits 10 n) := by
  intro c hc
  obtain ⟨d, hd, rfl⟩ := exists_digitChar_of_mem (by decide) hc
  exact (oneLine_digitChar d (by omega)).1 _ (by simp)

/-- A padded number is written with the zero and the digits of the base. -/
theorem exists_digitChar_of_mem_padded {base width n : Nat} (hb : 1 < base) {c : Char}
    (hc : c ∈ padded base width n) : ∃ d, d < base ∧ c = d.digitChar := by
  rcases List.mem_append.mp hc with hc | hc
  · exact ⟨0, by omega, (List.mem_replicate.mp hc).2⟩
  · exact exists_digitChar_of_mem hb hc

@[simp] theorem oneLine_lowerHex (n : Nat) : OneLine (lowerHex n).toList := by
  intro c hc
  rw [lowerHex, String.toList_ofList] at hc
  obtain ⟨d, hd, rfl⟩ := exists_digitChar_of_mem_padded (by decide) hc
  exact (oneLine_digitChar d hd).1 _ (by simp)

@[simp] theorem oneLine_upperHex (n : Nat) : OneLine (upperHex n).toList := by
  intro c hc
  rw [upperHex, String.toList_ofList, List.mem_map] at hc
  obtain ⟨c, hc, rfl⟩ := hc
  obtain ⟨d, hd, rfl⟩ := exists_digitChar_of_mem_padded (by decide) hc
  exact (oneLine_digitChar d hd).2 _ (by simp)

theorem oneLine_add {s t : String} :
    OneLine (s ++ t).toList ↔ OneLine s.toList ∧ OneLine t.toList := by
  rw [String.toList_append, oneLine_append]

theorem oneLine_repr (n : Nat) : OneLine (Nat.repr n).toList := by
  rw [Nat.toList_repr]
  exact oneLine_decimal n

/-! ## Reading lines -/

/-- A text of characters of one byte each has as many bytes as characters. -/
theorem byteLength_eq_length {cs : List Char} (h : ∀ c ∈ cs, c.utf8Size = 1) :
    byteLength cs = cs.length := by
  induction cs with
  | nil => rfl
  | cons c cs ih =>
    rw [byteLength, h c (by simp), ih fun d hd => h d (by simp [hd]), List.length_cons,
      Nat.add_comm]

theorem utf8ByteSize_ofList : ∀ cs : List Char, (String.ofList cs).utf8ByteSize = byteLength cs
  | [] => rfl
  | c :: cs => by
    have split : String.ofList (c :: cs) = String.singleton c ++ String.ofList cs := by
      rw [← String.toList_inj]
      simp
    rw [split, String.utf8ByteSize_append, String.utf8ByteSize_singleton, utf8ByteSize_ofList cs,
      byteLength]

/-- A string of characters of one byte each has as many bytes as characters. -/
theorem utf8ByteSize_eq_length {s : String} (h : ∀ c ∈ s.toList, c.utf8Size = 1) :
    s.utf8ByteSize = s.toList.length := by
  have bytes := utf8ByteSize_ofList s.toList
  rwa [String.ofList_toList, byteLength_eq_length h] at bytes

/-- A line without a carriage return at its end stays as it is. -/
theorem dropReturn_of_oneLine {line : List Char} (h : OneLine line) : dropReturn line = line := by
  refine if_neg fun last => ?_
  exact (h '\r' (List.mem_of_getLast? last)).2 rfl

theorem lines_of_last {cs : List Char} (h : fromNewline cs = []) :
    lines cs = if cs = [] then [] else [cs] := by
  rw [lines]
  split
  · rfl
  · next found => rw [h] at found; cases found

theorem lines_of_newline {cs rest : List Char} {c : Char} (h : fromNewline cs = c :: rest) :
    lines cs = dropReturn (beforeNewline cs) :: lines rest := by
  rw [lines]
  split
  · next last => rw [h] at last; cases last
  · next found =>
    rw [h] at found
    cases found
    rfl

@[simp] theorem lines_nil : lines [] = [] := by
  rw [lines_of_last rfl, if_pos rfl]

theorem bne_of_not_mem {c : Char} {cs : List Char} (absent : c ∉ cs) : ∀ d ∈ cs, (d != c) = true := by
  intro d mem
  rw [bne_iff_ne]
  rintro rfl
  exact absent mem

/-- What stands before the first newline is the first line, without a carriage return at its end. -/
theorem lines_break {line : List Char} (h : '\n' ∉ line) (rest : List Char) :
    lines (line ++ '\n' :: rest) = dropReturn line :: lines rest := by
  have plain := bne_of_not_mem h
  have before : beforeNewline (line ++ '\n' :: rest) = line := by
    rw [beforeNewline, List.takeWhile_append_of_pos plain, List.takeWhile_cons_of_neg (by simp),
      List.append_nil]
  have after : fromNewline (line ++ '\n' :: rest) = '\n' :: rest := by
    rw [fromNewline, List.dropWhile_append_of_pos plain, List.dropWhile_cons_of_neg (by simp)]
  rw [lines_of_newline after, before]

theorem OneLine.no_newline {cs : List Char} (h : OneLine cs) : '\n' ∉ cs := fun mem => (h _ mem).1 rfl

theorem no_newline_add {s t : String} :
    '\n' ∉ (s ++ t).toList ↔ '\n' ∉ s.toList ∧ '\n' ∉ t.toList := by
  rw [String.toList_append, List.mem_append, not_or]

theorem lines_cons {line : List Char} (h : OneLine line) (rest : List Char) :
    lines (line ++ '\n' :: rest) = line :: lines rest := by
  rw [lines_break h.no_newline, dropReturn_of_oneLine h]

theorem not_newline_of_mem_beforeNewline {cs : List Char} {c : Char} (h : c ∈ beforeNewline cs) :
    c ≠ '\n' := by
  have before := List.all_eq_true.mp List.all_takeWhile c h
  simpa using before

theorem mem_of_mem_dropReturn {line : List Char} {c : Char} (h : c ∈ dropReturn line) : c ∈ line := by
  unfold dropReturn at h
  split at h
  · exact List.dropLast_subset line h
  · exact h

theorem prefix_of_dropReturn (line : List Char) : dropReturn line <+: line := by
  unfold dropReturn
  split
  · exact List.dropLast_prefix line
  · exact List.prefix_rfl

/-- No line holds a newline. -/
theorem not_newline_of_mem_lines {cs line : List Char} (mem : line ∈ lines cs) : '\n' ∉ line := by
  intro newline
  induction cs using lines.induct with
  | case1 last =>
    rw [lines_of_last last, if_pos rfl] at mem
    cases mem
  | case2 cs last ne =>
    rw [lines_of_last last, if_neg ne, List.mem_singleton] at mem
    have whole : beforeNewline cs ++ fromNewline cs = cs := List.takeWhile_append_dropWhile
    rw [last, List.append_nil] at whole
    rw [mem, ← whole] at newline
    exact not_newline_of_mem_beforeNewline newline rfl
  | case3 cs c rest found ih =>
    rw [lines_of_newline found, List.mem_cons] at mem
    obtain rfl | mem := mem
    · exact not_newline_of_mem_beforeNewline (mem_of_mem_dropReturn newline) rfl
    · exact ih mem

/-- Lines that are written are the lines that are read. -/
theorem lines_flatMap {ls : List (List Char)} (h : ∀ l ∈ ls, OneLine l) :
    lines (ls.flatMap (· ++ ['\n'])) = ls := by
  induction ls with
  | nil => exact lines_nil
  | cons l ls ih =>
    rw [List.flatMap_cons, List.append_assoc, List.singleton_append, lines_cons (h l (by simp)),
      ih fun x hx => h x (by simp [hx])]

/-- Things that are written on a line each are read line by line. -/
theorem lines_flatMap_of {α : Type} {write : α → List Char} {xs : List α}
    (h : ∀ x ∈ xs, OneLine (write x)) :
    lines (xs.flatMap fun x => write x ++ ['\n']) = xs.map write := by
  have each : ∀ l ∈ xs.map write, OneLine l := List.forall_mem_map.mpr h
  calc lines (xs.flatMap fun x => write x ++ ['\n'])
      = lines ((xs.map write).flatMap (· ++ ['\n'])) := by rw [List.flatMap_map]
    _ = xs.map write := lines_flatMap each

/-! ## The last line -/

theorem exists_break {cs : List Char} (h : '\n' ∈ cs) :
    ∃ line rest, '\n' ∉ line ∧ cs = line ++ '\n' :: rest := by
  induction cs with
  | nil => cases h
  | cons c cs ih =>
    by_cases newline : c = '\n'
    · subst newline
      exact ⟨[], cs, List.not_mem_nil, rfl⟩
    · obtain ⟨line, rest, flat, rfl⟩ := ih ((List.mem_cons.mp h).resolve_left (Ne.symm newline))
      exact ⟨c :: line, rest, by simp [flat, Ne.symm newline], rfl⟩

/-- Induction on the lines of a text, the first line apart from those behind it. -/
@[elab_as_elim]
theorem induction_lines {motive : List Char → Prop} (last : ∀ cs, '\n' ∉ cs → motive cs)
    (cons : ∀ line rest, '\n' ∉ line → motive rest → motive (line ++ '\n' :: rest))
    (cs : List Char) : motive cs := by
  by_cases newline : '\n' ∈ cs
  · obtain ⟨line, rest, flat, rfl⟩ := exists_break newline
    have shorter : rest.length < (line ++ '\n' :: rest).length := by
      rw [List.length_append, List.length_cons]
      omega
    exact cons line rest flat (induction_lines last cons rest)
  · exact last cs newline
termination_by cs.length

/-- Behind a newline nothing belongs to the first line. -/
theorem newline_append_of_mem {cs : List Char} (newline : '\n' ∈ cs) (rest : List Char) :
    beforeNewline (cs ++ rest) = beforeNewline cs ∧
      fromNewline (cs ++ rest) = fromNewline cs ++ rest := by
  obtain ⟨line, more, flat, rfl⟩ := exists_break newline
  have plain := bne_of_not_mem flat
  simp [beforeNewline, fromNewline, List.takeWhile_append_of_pos plain,
    List.dropWhile_append_of_pos plain]

/-- A text without a newline belongs to the first line. -/
theorem newline_append_of_not_mem {cs : List Char} (flat : '\n' ∉ cs) (rest : List Char) :
    beforeNewline (cs ++ rest) = cs ++ beforeNewline rest ∧
      fromNewline (cs ++ rest) = fromNewline rest := by
  have plain := bne_of_not_mem flat
  exact ⟨List.takeWhile_append_of_pos plain, List.dropWhile_append_of_pos plain⟩

/-- A text that begins with a newline, if with anything, has nothing on its first line. -/
theorem newline_of_stop {cs : List Char} (stop : ∀ d ∈ cs.head?, d = '\n') :
    beforeNewline cs = [] ∧ fromNewline cs = cs := by
  cases cs with
  | nil => exact ⟨rfl, rfl⟩
  | cons d cs =>
    obtain rfl := stop d rfl
    exact ⟨rfl, rfl⟩

theorem stop_fromNewline (cs : List Char) : ∀ d ∈ (fromNewline cs).head?, d = '\n' := by
  intro d mem
  have stop := List.head?_dropWhile_not (· != '\n') cs
  rw [← fromNewline, Option.mem_def.mp mem] at stop
  simpa using stop

theorem fromNewline_of_not_mem {cs : List Char} (flat : '\n' ∉ cs) : fromNewline cs = [] :=
  List.dropWhile_eq_nil_iff.mpr (bne_of_not_mem flat)

/-- A text that ends its line has no part in the lines behind it. -/
theorem lines_append (before rest : List Char) :
    lines (before ++ '\n' :: rest) = lines (before ++ ['\n']) ++ lines rest := by
  induction before using induction_lines with
  | last before flat =>
    rw [lines_break flat, lines_break flat, lines_nil, List.singleton_append]
  | cons line more flat ih =>
    rw [List.append_assoc, List.cons_append, lines_break flat, ih, List.append_assoc,
      List.cons_append, lines_break flat, List.cons_append]

/-- A text with a newline behind it has as many lines as newlines then. -/
theorem length_lines_concat (cs : List Char) : (lines (cs ++ ['\n'])).length = cs.count '\n' + 1 := by
  induction cs using induction_lines with
  | last cs flat =>
    rw [lines_break flat, lines_nil, List.length_singleton, List.count_eq_zero.mpr flat]
  | cons line rest flat ih =>
    rw [List.append_assoc, List.cons_append, lines_break flat, List.length_cons, ih,
      List.count_append, List.count_eq_zero.mpr flat, List.count_cons_self, Nat.zero_add]

/-- Of lines that are written, the last is the last one read if there is no newline in it. -/
theorem getLast?_lines {line : List Char} (flat : '\n' ∉ line) (written : List (List Char)) :
    (lines ((written ++ [line]).flatMap (· ++ ['\n']))).getLast? = some (dropReturn line) := by
  have single : lines (line ++ ['\n']) = [dropReturn line] := by rw [lines_break flat, lines_nil]
  rw [List.flatMap_append, List.flatMap_singleton]
  cases written using List.reverseRecOn with
  | nil => rw [List.flatMap_nil, List.nil_append, single, List.getLast?_singleton]
  | append_singleton before last =>
    have whole : (before ++ [last]).flatMap (· ++ ['\n']) ++ (line ++ ['\n']) =
        before.flatMap (· ++ ['\n']) ++ last ++ '\n' :: (line ++ ['\n']) := by simp
    rw [whole, lines_append, single, List.getLast?_concat]

/-- A carriage return is only dropped behind a beginning that has none. -/
theorem prefix_dropReturn {start : List Char} (h : '\r' ∉ start) (rest : List Char) :
    start <+: dropReturn (start ++ rest) := by
  unfold dropReturn
  split
  · next last =>
    have ne : rest ≠ [] := by
      rintro rfl
      rw [List.append_nil] at last
      exact h (List.mem_of_getLast? last)
    rw [List.dropLast_append_of_ne_nil ne]
    exact List.prefix_append ..
  · exact List.prefix_append ..

end ByteMachine.Text
