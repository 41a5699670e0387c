import Mathlib.Data.List.DropRight
import ByteMachine.Text.Blank
import ByteMachine.Text.Lines

/-
  Blanks around a text. A text falls into blanks, a part that neither begins nor ends with
  a blank, and blanks again, and there is only one such part: what trimming leaves
  (`trimmed_iff`). Something behind a text that ends without a blank makes no difference to
  its length, once blanks at the end are gone, just if there is nothing but blanks in it
  (`byteLength_trimEnd_append`).
-/

namespace ByteMachine.Text

variable {a b cs rest : List Char}

/-- Whether there are only blanks in the text. -/
def Blanks (cs : List Char) : Prop := ∀ c ∈ cs, isBlank c = true

/-- What is left of a text without the blanks around it. -/
structure Trimmed (cs rest : List Char) : Prop where
  parts : ∃ before after, cs = before ++ rest ++ after ∧ Blanks before ∧ Blanks after
  first : ∀ c ∈ rest.head?, isBlank c = false
  last : ∀ c ∈ rest.getLast?, isBlank c = false

/-! ## Blanks at the end -/

theorem trimEnd_eq_rdropWhile (cs : List Char) : trimEnd cs = cs.rdropWhile isBlank := rfl

theorem trimEnd_eq_nil_iff : trimEnd cs = [] ↔ Blanks cs := by
  rw [trimEnd_eq_rdropWhile]
  exact List.rdropWhile_eq_nil_iff

/-- A text without a blank at its end stays as it is. -/
theorem trimEnd_of_last (last : ∀ c ∈ cs.getLast?, isBlank c = false) : trimEnd cs = cs := by
  rw [trimEnd_eq_rdropWhile, List.rdropWhile_eq_self_iff]
  intro ne
  rw [last _ (List.getLast?_eq_getLast_of_ne_nil ne)]
  exact Bool.false_ne_true

theorem last_trimEnd (cs : List Char) : ∀ c ∈ (trimEnd cs).getLast?, isBlank c = false := by
  intro c mem
  obtain ⟨ne, rfl⟩ := List.mem_getLast?_eq_getLast mem
  exact Bool.eq_false_iff.mpr (List.rdropWhile_last_not isBlank cs ne)

/-- What goes at the end are blanks. -/
theorem exists_trimEnd (cs : List Char) : ∃ after, cs = trimEnd cs ++ after ∧ Blanks after := by
  refine ⟨(cs.reverse.takeWhile isBlank).reverse, ?_, ?_⟩
  · rw [trimEnd, ← List.reverse_append, List.takeWhile_append_dropWhile, List.reverse_reverse]
  · intro c mem
    exact List.mem_takeWhile_imp (List.mem_reverse.mp mem)

theorem trimEnd_append_of_not_blanks (other : ¬ Blanks b) : trimEnd (a ++ b) = a ++ trimEnd b := by
  have some : b.reverse.dropWhile isBlank ≠ [] := by
    intro none
    exact other (trimEnd_eq_nil_iff.mp (congrArg List.reverse none))
  rw [trimEnd, List.reverse_append, List.dropWhile_append, if_neg (by simpa using some),
    List.reverse_append, List.reverse_reverse, trimEnd]

theorem byteLength_pos (some : cs ≠ []) : 0 < byteLength cs := by
  obtain ⟨c, rest, rfl⟩ := List.exists_cons_of_ne_nil some
  exact Nat.lt_of_lt_of_le c.utf8Size_pos (Nat.le_add_right _ _)

theorem byteLength_trimEnd_append (last : ∀ c ∈ a.getLast?, isBlank c = false) (b : List Char) :
    byteLength (trimEnd (a ++ b)) = byteLength a ↔ Blanks b := by
  constructor
  · intro same
    by_contra other
    have more : trimEnd b ≠ [] := mt trimEnd_eq_nil_iff.mp other
    rw [trimEnd_append_of_not_blanks other, byteLength_append] at same
    exact Nat.ne_of_gt (Nat.lt_add_of_pos_right (byteLength_pos more)) same
  · intro blanks
    rw [trimEnd_append_of_blank blanks, trimEnd_of_last last]

/-! ## Blanks at both ends -/

theorem trimmed_trim (cs : List Char) : Trimmed cs (trim cs) := by
  obtain ⟨after, whole, blanks⟩ := exists_trimEnd (cs.dropWhile isBlank)
  refine ⟨⟨cs.takeWhile isBlank, after, ?_, fun c => List.mem_takeWhile_imp, blanks⟩, ?_,
    last_trimEnd _⟩
  · rw [List.append_assoc, trim, ← whole, List.takeWhile_append_dropWhile]
  · intro c mem
    -- The first character is still the first one after the blanks in front have gone.
    have first : c ∈ (cs.dropWhile isBlank).head? := by
      rw [whole]
      exact List.mem_head?_append_of_mem_head? mem
    have stop := List.head?_dropWhile_not isBlank cs
    rw [Option.mem_def.mp first] at stop
    simpa using stop

/-- What trimming leaves is the only part of the text with nothing but blanks around it. -/
theorem trimmed_iff : Trimmed cs rest ↔ rest = trim cs := by
  constructor
  · rintro ⟨⟨before, after, rfl, front, back⟩, first, last⟩
    rw [trim, List.append_assoc, List.dropWhile_append_of_pos front]
    cases rest with
    | nil =>
      rw [List.nil_append, List.dropWhile_eq_nil_iff.mpr back]
      rfl
    | cons c rest =>
      have kept : isBlank c ≠ true := by simp [first c rfl]
      rw [List.cons_append, List.dropWhile_cons_of_neg kept, ← List.cons_append,
        trimEnd_append_of_blank back, trimEnd_of_last last]
  · rintro rfl
    exact trimmed_trim cs

end ByteMachine.Text
