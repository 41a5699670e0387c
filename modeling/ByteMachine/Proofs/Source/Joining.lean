import ByteMachine.Proofs.Source.Grammar
import ByteMachine.Proofs.Source.Refusal
import ByteMachine.Proofs.Source.Scanning

/-
  One source behind another, with a newline between. What is proved:

    1. A line says the same further down, but for its number (`Statement.parse_add`).
    2. The newline ends the last line of the first source. A carriage return at the end of that
       line is dropped then, which changes no token, and if the source ended with a newline
       already or is empty, there is a line more that says nothing (`Reads.newline`).
    3. So the joined source says what the two say, one after the other (`Reads.join`).
    4. The labels of the first source stand where they stood, and those of the second as far
       behind as the first has bytes (`addressIn_join`).
-/

namespace ByteMachine.Source

/-! ## Lines further down -/

namespace Statement
variable {line : Nat} {s : Statement}

/-- The statement on a line that is so many lines further down. -/
def down (lines : Nat) (s : Statement) : Statement := { s with line := s.line + lines }

/-- Whether the line has neither a label nor a command. -/
structure Silent (s : Statement) : Prop where
  label : s.label = none
  command : s.command = none

/-- A line says the same further down. -/
theorem parse_add {source : String} (said : parse line source = .ok s) (lines : Nat) :
    parse (line + lines) source = .ok (s.down lines) := by
  obtain ⟨clean, rfl, form⟩ := parse_eq_ok_iff.mp said
  exact parse_eq_ok_iff.mpr ⟨clean, rfl, form⟩

/-- A line with the same tokens says the same. -/
theorem parse_of_scan {a b : String} (same : Token.scan a = Token.scan b)
    (said : parse line a = .ok s) : parse line b = .ok s := by
  have tokens : firstLine a = firstLine b := by rw [firstLine, firstLine, same]
  rw [parse_eq_ok_iff] at said ⊢
  rwa [← tokens]

theorem parse_empty (line : Nat) : parse line (String.ofList []) = .ok ⟨line, none, none⟩ := by
  have tokens : firstLine (String.ofList []) = [] := by
    rw [firstLine, Token.scan, String.toList_ofList, Token.scanFrom_nil, List.takeWhile_nil]
  rw [parse_eq_ok_iff, tokens]
  exact ⟨by simp, rfl, .plain .nothing⟩

end Statement

theorem Reads.add {line : Nat} {texts : List (List Char)} {ss : List Statement}
    (h : Reads line texts ss) (lines : Nat) :
    Reads (line + lines) texts (ss.map (Statement.down lines)) := by
  induction h with
  | nil => exact .nil _
  | cons first _ ih =>
    refine .cons (Statement.parse_add first lines) ?_
    rwa [Nat.add_right_comm]

/-- With a newline at its end a text says the same, and there may be a line more that is empty. -/
theorem Reads.newline {line : Nat} {cs : List Char} {ss : List Statement}
    (h : Reads line (Text.lines cs) ss) :
    ∃ pad, (∀ s ∈ pad, s.Silent) ∧ Reads line (Text.lines (cs ++ ['\n'])) (ss ++ pad) := by
  -- By induction on the lines: what is behind the last newline is all that can change.
  induction cs using Text.induction_lines generalizing line ss with
  | cons first rest flat ih =>
    rw [Text.lines_break flat] at h
    rw [List.append_assoc, List.cons_append, Text.lines_break flat]
    cases h with
    | cons said h =>
      obtain ⟨pad, silent, reads⟩ := ih h
      exact ⟨pad, silent, .cons said reads⟩
  | last cs flat =>
    rw [Text.lines_break flat, Text.lines_nil]
    rw [Text.lines_of_last (Text.fromNewline_of_not_mem flat)] at h
    split at h
    · next empty =>
      subst empty
      cases h
      refine ⟨[⟨line, none, none⟩], ?_, .cons (Statement.parse_empty line) (.nil _)⟩
      exact List.forall_mem_singleton.mpr ⟨rfl, rfl⟩
    · cases h with
      | cons said h =>
        cases h
        -- The last line has a newline behind it now, so a carriage return at its end goes.
        have same := Statement.parse_of_scan (Token.scan_dropReturn cs).symm said
        exact ⟨[], by simp, .cons same (.nil _)⟩

/-! ## Joined sources -/

section Join
variable {s t : String} {ss ts : List Statement}

/-- The second source behind the first, with a newline between. -/
def joined (s t : String) : String := s ++ "\n" ++ t

/-- The number of lines in front of the second of two sources that are joined. -/
def linesBefore (s : String) : Nat := s.toList.count '\n' + 1

theorem lines_joined (s t : String) : Text.lines (joined s t).toList =
    Text.lines (s.toList ++ ['\n']) ++ Text.lines t.toList := by
  have text : (joined s t).toList = s.toList ++ '\n' :: t.toList := by simp [joined]
  rw [text, Text.lines_append]

/-- Joined sources say what the two say, the second one further down. -/
theorem Reads.join (h : Reads 1 (Text.lines s.toList) ss) (h' : Reads 1 (Text.lines t.toList) ts) :
    ∃ pad, (∀ p ∈ pad, p.Silent) ∧ (ss ++ pad).length = linesBefore s ∧
      Reads 1 (Text.lines (joined s t).toList) (ss ++ pad ++ ts.map (Statement.down (linesBefore s))) := by
  obtain ⟨pad, silent, reads⟩ := h.newline
  have length : (Text.lines (s.toList ++ ['\n'])).length = linesBefore s :=
    Text.length_lines_concat s.toList
  refine ⟨pad, silent, reads.length_eq.trans length, ?_⟩
  rw [lines_joined]
  apply reads.append
  rw [length]
  exact h'.add (linesBefore s)

end Join

/-! ## Labels of joined sources -/

section Labels
variable {ss ts pad : List Statement}

theorem totalWidth_append (ss ts : List Statement) :
    totalWidth (ss ++ ts) = totalWidth ss + totalWidth ts := by
  simp [totalWidth]

theorem totalWidth_of_silent (silent : ∀ p ∈ pad, p.Silent) : totalWidth pad = 0 := by
  rw [totalWidth, List.sum_eq_zero_iff, List.forall_mem_map]
  intro p mem
  rw [Statement.width, (silent p mem).command]

theorem totalWidth_down (lines : Nat) (ts : List Statement) :
    totalWidth (ts.map (Statement.down lines)) = totalWidth ts := by
  rw [totalWidth, List.map_map]
  rfl

theorem labels_of_silent (silent : ∀ p ∈ pad, p.Silent) : pad.filterMap Statement.label = [] :=
  List.filterMap_eq_nil_iff.mpr fun p mem => (silent p mem).label

theorem labels_down (lines : Nat) (ts : List Statement) :
    (ts.map (Statement.down lines)).filterMap Statement.label = ts.filterMap Statement.label := by
  rw [List.filterMap_map]
  rfl

theorem addressIn_of_silent (silent : ∀ p ∈ pad, p.Silent) (name : String) :
    addressIn pad name = none := by
  rw [addressIn, Option.map_eq_none_iff, List.findIdx?_eq_none_iff]
  intro p mem
  rw [(silent p mem).label]
  rfl

theorem addressIn_down (lines : Nat) (ts : List Statement) (name : String) :
    addressIn (ts.map (Statement.down lines)) name = addressIn ts name := by
  have width : ∀ j, totalWidth ((ts.map (Statement.down lines)).take j) = totalWidth (ts.take j) := by
    intro j
    rw [← List.map_take, totalWidth_down]
  rw [addressIn, List.findIdx?_map, addressIn]
  simp only [width]
  rfl

/-- Behind other statements a label stands as much further on as they have bytes. -/
theorem addressIn_append (ss ts : List Statement) (name : String) : addressIn (ss ++ ts) name =
    (addressIn ss name).or ((addressIn ts name).map (totalWidth ss + ·)) := by
  rw [addressIn, List.findIdx?_append]
  cases found : ss.findIdx? fun s => s.label == some name with
  | some j =>
    obtain ⟨inside, -⟩ := List.findIdx?_eq_some_iff_getElem.mp found
    simp [addressIn, found, List.take_append_of_le_length (Nat.le_of_lt inside)]
  | none =>
    have width : ∀ j, totalWidth ((ss ++ ts).take (j + ss.length)) =
        totalWidth ss + totalWidth (ts.take j) := by
      intro j
      rw [Nat.add_comm, List.take_length_add_append, totalWidth_append]
    simp [addressIn, found, Function.comp_def, width]

variable (silent : ∀ p ∈ pad, p.Silent) (lines : Nat)
include silent

theorem addressIn_join (name : String) :
    addressIn (ss ++ pad ++ ts.map (Statement.down lines)) name =
      (addressIn ss name).or ((addressIn ts name).map (totalWidth ss + ·)) := by
  rw [addressIn_append, addressIn_append, addressIn_of_silent silent, addressIn_down,
    totalWidth_append, totalWidth_of_silent silent, Option.map_none, Option.or_none, Nat.add_zero]

theorem labels_join : (ss ++ pad ++ ts.map (Statement.down lines)).filterMap Statement.label =
    ss.filterMap Statement.label ++ ts.filterMap Statement.label := by
  rw [List.filterMap_append, List.filterMap_append, labels_of_silent silent, labels_down,
    List.append_nil]

theorem totalWidth_join : totalWidth (ss ++ pad ++ ts.map (Statement.down lines)) =
    totalWidth ss + totalWidth ts := by
  rw [totalWidth_append, totalWidth_append, totalWidth_of_silent silent, totalWidth_down,
    Nat.add_zero]

end Labels

end ByteMachine.Source
