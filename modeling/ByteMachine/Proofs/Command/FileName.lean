import Mathlib.Data.List.Basic
import Mathlib.Data.List.Induction
import ByteMachine.Command.Session

/-
  What the name of a file says about it. A name that goes on from a stem with a dot and an
  extension has that extension, unless there is nothing before the dot in the last name
  of the path. So `stem.asm` holds source when the stem ends in a name, and `stem.ls8`
  holds none, whatever the stem is.
-/

namespace ByteMachine.Command

/-- A text without the separator goes on with the last piece. -/
theorem exists_pieces_append {separator : Char} {tail : List Char} (none : separator ∉ tail)
    (cs : List Char) : ∃ before last, Text.pieces separator cs = before ++ [last] ∧
      Text.pieces separator (cs ++ tail) = before ++ [last ++ tail] := by
  induction cs with
  | nil => exact ⟨[], [], rfl, Text.pieces_of_notMem none⟩
  | cons c cs ih =>
    obtain ⟨before, last, short, long⟩ := ih
    rw [List.cons_append, Text.pieces, Text.pieces, short, long]
    by_cases separates : c = separator
    · exact ⟨[] :: before, last, if_pos separates, if_pos separates⟩
    · rw [if_neg separates, if_neg separates]
      cases before with
      | nil => exact ⟨[], c :: last, rfl, rfl⟩
      | cons piece before => exact ⟨(c :: piece) :: before, last, rfl, rfl⟩

section Extension
variable {ext : List Char} (dot : '.' ∉ ext)

include dot in
theorem extension?_ofList (name : List Char) :
    extension? (String.ofList (name ++ '.' :: ext)) =
      if name = [] then none else some (String.ofList ext) := by
  have plain : ∀ c ∈ ext.reverse, (c != '.') = true := by
    intro c mem
    rw [bne_iff_ne]
    rintro rfl
    exact dot (List.mem_reverse.mp mem)
  have reversed : (name ++ '.' :: ext).reverse = ext.reverse ++ '.' :: name.reverse := by simp
  rw [extension?, String.toList_ofList, reversed, List.dropWhile_append_of_pos plain,
    List.dropWhile_cons_of_neg (by simp), List.takeWhile_append_of_pos plain,
    List.takeWhile_cons_of_neg (by simp), List.append_nil, List.reverse_reverse]
  cases name using List.reverseRecOn with
  | nil => rfl
  | append_singleton name c => simp

include dot in
/-- The last name of the path goes on with the extension. -/
theorem exists_fileName? (slash : '/' ∉ ext) (ne : ext ≠ []) (stem : String) :
    ∃ before name, Text.pieces '/' stem.toList = before ++ [name] ∧
      fileName? (stem ++ String.ofList ('.' :: ext)) = some (String.ofList (name ++ '.' :: ext)) := by
  have whole : '/' ∉ '.' :: ext := by simpa using slash
  obtain ⟨before, name, short, long⟩ := exists_pieces_append whole stem.toList
  refine ⟨before, name, short, ?_⟩
  obtain ⟨init, c, rfl⟩ := (List.eq_nil_or_concat' ext).resolve_left ne
  have apart : c ≠ '.' := by
    rintro rfl
    exact dot (by simp)
  have here : String.ofList (name ++ '.' :: (init ++ [c])) ≠ "." := by
    intro same
    have length : name.length + (init.length + 1 + 1) = 1 := by
      simpa using congrArg (fun s : String => s.toList.length) same
    omega
  have above : String.ofList (name ++ '.' :: (init ++ [c])) ≠ ".." := by
    intro same
    have last := congrArg (fun s : String => s.toList.getLast?) same
    simp only [String.toList_ofList, List.getLast?_append, List.getLast?_cons] at last
    simp [apart] at last
  have named : (pathNames (stem ++ String.ofList ('.' :: (init ++ [c])))).getLast? =
      some (String.ofList (name ++ '.' :: (init ++ [c]))) := by
    have kept : (name ++ '.' :: (init ++ [c]) != []) = true := by simp
    rw [pathNames, Text.namedPieces, String.toList_append, String.toList_ofList, long,
      List.filter_append, List.map_append, List.filter_append]
    simp only [List.filter_cons, kept, List.filter_nil, if_true, List.map_cons, List.map_nil,
      bne_iff_ne, ne_eq, here, not_false_eq_true, List.getLast?_concat]
  rw [fileName?, named]
  split
  · next up => exact absurd (Option.some.inj up) above
  · next none => cases none
  · next last => exact last.symm

end Extension

/-- A stem that ends in a name. -/
theorem isSource_append_asm (stem : String) {c : Char} (ends : stem.toList.getLast? = some c)
    (named : c ≠ '/') : isSource (stem ++ ".asm") = true := by
  obtain ⟨before, name, pieces, file⟩ :=
    exists_fileName? (by decide : '.' ∉ ['a', 's', 'm']) (by decide) (by decide) stem
  have ne : name ≠ [] := by
    obtain ⟨init, whole⟩ := List.getLast?_eq_some_iff.mp ends
    have single : '/' ∉ [c] := by simpa using named.symm
    obtain ⟨before', last, -, long⟩ := exists_pieces_append single init
    rw [← whole, pieces] at long
    obtain ⟨-, same⟩ := List.append_inj' long rfl
    rw [List.singleton_inj.mp same]
    simp
  rw [isSource, show ".asm" = String.ofList ['.', 'a', 's', 'm'] from rfl, file, Option.bind_some,
    extension?_ofList (by decide), if_neg ne]
  decide

/-- Any stem at all. -/
theorem isSource_append_ls8 (stem : String) : isSource (stem ++ ".ls8") = false := by
  obtain ⟨before, name, -, file⟩ :=
    exists_fileName? (by decide : '.' ∉ ['l', 's', '8']) (by decide) (by decide) stem
  rw [isSource, show ".ls8" = String.ofList ['.', 'l', 's', '8'] from rfl, file, Option.bind_some,
    extension?_ofList (by decide)]
  by_cases none : name = []
  · rw [if_pos none]
  · rw [if_neg none]
    decide

end ByteMachine.Command
