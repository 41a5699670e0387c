import ByteMachine.Command.Filter
import ByteMachine.Proofs.Text.Lines

/-
  What a filter shows. A directive that names no field decides by origins alone, and no
  origin is longer than that of the rows of a trace and still a beginning of it. So the
  directive that `withRows` adds has the last word about rows:

    1. `shows_upTo`: a filter with one threshold shows what is important enough.
    2. `shows_row`: with the rows, a filter of directives without fields shows them all.
    3. `plain_ofSetting`: a setting without brackets is such a filter, and so are all
       settings that are bare.
-/

namespace ByteMachine.Command

/-! ## The deciding directive -/

namespace Directive

/-- The directive that shows the rows of a trace. -/
def rows : Directive := ⟨Notice.rowOrigin, none, none, some .trace⟩

/-- Whether the directive says nothing of fields. -/
def Plain (d : Directive) : Prop := d.field = none

theorem isAbout_rows (row : TraceRow) : rows.isAbout (.event (.row row)) = true := by
  simp [isAbout, rows, Notice.origin, Notice.rowOrigin]

/-- Of what a plain directive says about rows, nothing is more specific than their origin. -/
theorem yieldsTo_rows {d : Directive} (plain : d.Plain) {row : TraceRow}
    (about : d.isAbout (.event (.row row)) = true) : d.yieldsTo rows = true := by
  have shorter : d.origin.utf8ByteSize ≤ rows.origin.utf8ByteSize := by
    simp only [isAbout, Bool.and_eq_true, List.isPrefixOf_iff_prefix] at about
    obtain ⟨rest, whole⟩ := about.1.1
    rw [← String.ofList_toList (s := d.origin), ← String.ofList_toList (s := rows.origin),
      Text.utf8ByteSize_ofList, Text.utf8ByteSize_ofList]
    show Text.byteLength d.origin.toList ≤ Text.byteLength Notice.rowOrigin.toList
    rw [← show d.origin.toList ++ rest = Notice.rowOrigin.toList from whole, Text.byteLength_append]
    exact Nat.le_add_right _ _
  have field : (compare (d.field.map (·.name)) (rows.field.map (·.name))) = .eq := by
    rw [plain]
    rfl
  rw [yieldsTo, field]
  rcases Nat.lt_or_eq_of_le shorter with less | same
  · rw [Nat.compare_eq_lt.mpr less]
    rfl
  · rw [Nat.compare_eq_eq.mpr same]
    rfl

end Directive

namespace Filter
variable {f : Filter} {d : Directive} {n : Notice}

/-- A directive that is set last decides, if it is not less specific than what decided before. -/
theorem directive?_concat (about : d.isAbout n = true) :
    directive? (f ++ [d]) n =
      match f.directive? n with
      | none => some d
      | some best => if best.yieldsTo d then some d else some best := by
  have kept : (f ++ [d]).filter (·.isAbout n) = f.filter (·.isAbout n) ++ [d] := by
    simp only [List.filter_append, List.filter_cons, about, List.filter_nil, if_true]
  rw [directive?, kept, List.foldl_append]
  rfl

theorem directive?_concat_of_not (about : d.isAbout n = false) :
    directive? (f ++ [d]) n = f.directive? n := by
  have kept : (f ++ [d]).filter (·.isAbout n) = f.filter (·.isAbout n) := by
    simp [List.filter_append, about]
  rw [directive?, kept]
  rfl

/-- The directive that decides is one of the filter, and about the notice. -/
theorem mem_of_directive? (decides : f.directive? n = some d) : d ∈ f ∧ d.isAbout n = true := by
  induction f using List.reverseRecOn with
  | nil => cases decides
  | append_singleton f e ih =>
    by_cases about : e.isAbout n = true
    · rw [directive?_concat about] at decides
      have either : d = e ∨ directive? f n = some d := by
        split at decides
        · exact .inl (Option.some.inj decides).symm
        · next best before =>
          split at decides
          · exact .inl (Option.some.inj decides).symm
          · exact .inr (before.trans decides)
      obtain rfl | earlier := either
      · exact ⟨by simp, about⟩
      · exact ⟨List.mem_append_left _ (ih earlier).1, (ih earlier).2⟩
    · rw [directive?_concat_of_not (by simpa using about)] at decides
      exact ⟨List.mem_append_left _ (ih decides).1, (ih decides).2⟩

/-- Whether no directive of the filter says anything of fields. -/
def Plain (f : Filter) : Prop := ∀ d ∈ f, d.Plain

/-- The rows of a trace are shown whatever plain directives say of their origin. -/
theorem shows_row (plain : f.Plain) (row : TraceRow) :
    f.withRows.shows (.event (.row row)) = true := by
  have decides : f.withRows.directive? (.event (.row row)) = some Directive.rows := by
    show directive? (f ++ [Directive.rows]) _ = _
    rw [directive?_concat (Directive.isAbout_rows row)]
    split
    · rfl
    · next best before =>
      obtain ⟨mem, about⟩ := mem_of_directive? before
      rw [if_pos (Directive.yieldsTo_rows (plain best mem) about)]
  rw [shows, decides]
  rfl

theorem shows_upTo (level : Level) (n : Notice) :
    shows [.upTo level] n = decide (n.level.rank ≤ level.rank) := by
  simp [shows, directive?, Directive.isAbout, Directive.upTo, Threshold.admits]

/-! ## Settings without brackets -/

theorem mem_of_mem_trim {c : Char} {cs : List Char} (h : c ∈ Text.trim cs) : c ∈ cs := by
  rw [Text.trim, Text.trimEnd, List.mem_reverse] at h
  have back := (List.dropWhile_suffix _).subset h
  exact (List.dropWhile_suffix _).subset (List.mem_reverse.mp back)

theorem mem_of_mem_pieces {separator c : Char} {cs piece : List Char}
    (h : piece ∈ Text.pieces separator cs) (mem : c ∈ piece) : c ∈ cs := by
  induction cs generalizing piece with
  | nil =>
    rw [Text.pieces, List.mem_singleton] at h
    rwa [h] at mem
  | cons d cs ih =>
    rw [Text.pieces] at h
    split at h
    · obtain rfl | h := List.mem_cons.mp h
      · cases mem
      · exact List.mem_cons_of_mem d (ih h mem)
    · split at h
      · next none => exact absurd none (Text.pieces_ne_nil separator cs)
      · next first rest split =>
        rw [split] at ih
        obtain rfl | h := List.mem_cons.mp h
        · obtain rfl | mem := List.mem_cons.mp mem
          · exact List.mem_cons_self
          · exact List.mem_cons_of_mem d (ih List.mem_cons_self mem)
        · exact List.mem_cons_of_mem d (ih (List.mem_cons_of_mem first h) mem)

/-- A field is only asked for in brackets. -/
theorem plain_of_ofText? {text : String} (flat : '[' ∉ text.toList)
    (h : Directive.ofText? text = some d) : d.Plain := by
  have unseen : ∀ {offset : Nat} {rest : List Char},
      Directive.Scan.seen ⟨text.toList⟩ offset ≠ '[' :: rest := by
    intro offset rest seen
    have mem : '[' ∈ Directive.Scan.seen ⟨text.toList⟩ offset := by simp [seen]
    exact flat (mem_of_mem_trim (List.mem_of_mem_drop mem))
  unfold Directive.ofText? at h
  dsimp only at h
  split at h
  · cases h
  · split at h
    · split at h <;> cases h <;> rfl
    · next seen => exact absurd seen unseen
    · obtain ⟨threshold, -, h⟩ := Option.bind_eq_some_iff.mp h
      cases h
      rfl

theorem plain_of_mapM {texts : List String} (flat : ∀ text ∈ texts, '[' ∉ text.toList)
    (h : texts.mapM Directive.ofText? = some f) : f.Plain := by
  induction texts generalizing f with
  | nil =>
    cases h
    exact nofun
  | cons text texts ih =>
    rw [List.mapM_cons] at h
    obtain ⟨d, first, h⟩ := Option.bind_eq_some_iff.mp h
    obtain ⟨g, rest, h⟩ := Option.bind_eq_some_iff.mp h
    cases h
    rw [List.forall_mem_cons] at flat
    exact List.forall_mem_cons.mpr ⟨plain_of_ofText? flat.1 first, ih flat.2 rest⟩

/-- A setting in which no bracket opens names no field. -/
theorem plain_ofSetting {setting : Option String}
    (flat : ∀ text, setting = some text → '[' ∉ text.toList) : (ofSetting setting).Plain := by
  rw [ofSetting]
  cases read : setting.bind ofText? with
  | none => exact List.forall_mem_singleton.mpr rfl
  | some f =>
    obtain ⟨text, rfl, read⟩ := Option.bind_eq_some_iff.mp read
    apply plain_of_mapM _ read
    intro piece mem bracket
    obtain ⟨cs, inside, rfl⟩ := List.mem_map.mp mem
    rw [String.toList_ofList] at bracket
    exact flat text rfl (mem_of_mem_pieces (List.mem_of_mem_filter inside) bracket)

/-! ## Bare settings -/

/-- A setting that says at most how much to show: none at all, an empty one, or one threshold for
all origins. -/
inductive Bare : Option String → Prop
  | unset : Bare none
  | empty : Bare (some "")
  | threshold {text : String} {t : Threshold} (named : Threshold.ofText? text = some t) :
      Bare (some text)

theorem no_bracket_of_sameLetters {s t : String} (h : Text.sameLetters s t = true)
    (none : '[' ∉ s.toList.map Char.toLower) : '[' ∉ t.toList := by
  rw [Text.sameLetters_iff] at h
  rw [h] at none
  intro mem
  exact none (List.mem_map.mpr ⟨'[', mem, by decide⟩)

theorem no_bracket_of_number? {base limit k : Nat} {text : List Char}
    (h : Text.number? base limit Char.isDigit text = some k) : '[' ∉ text := by
  have valid : ∀ {ds : List Char}, (if ds ≠ [] ∧ ds.all Char.isDigit ∧ Text.numeral base ds ≤ limit
      then some (Text.numeral base ds) else none) = some k → '[' ∉ ds := by
    intro ds h mem
    split at h
    · next digits => exact absurd (List.all_eq_true.mp digits.2.1 '[' mem) (by decide)
    · cases h
  dsimp only [Text.number?] at h
  split at h
  · exact List.not_mem_cons_of_ne_of_not_mem (by decide) (valid h)
  · exact valid h

/-- No threshold is written with a bracket. -/
theorem no_bracket_of_threshold {text : String} {t : Threshold}
    (named : Threshold.ofText? text = some t) : '[' ∉ text.toList := by
  rw [Threshold.ofText?] at named
  split at named
  · next number => exact no_bracket_of_number? number
  · split at named
    · next off => exact no_bracket_of_sameLetters off (by decide)
    · obtain ⟨level, found, -⟩ := Option.map_eq_some_iff.mp named
      have same := List.find?_some found
      cases level <;> exact no_bracket_of_sameLetters same (by decide)

theorem Bare.plain {setting : Option String} (bare : Bare setting) : (ofSetting setting).Plain := by
  apply plain_ofSetting
  rintro text rfl
  cases bare with
  | empty => simp
  | threshold named => exact no_bracket_of_threshold named

end Filter

end ByteMachine.Command
