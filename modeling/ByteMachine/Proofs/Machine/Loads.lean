import ByteMachine.Proofs.Machine.Records

/-
  Loads. An image is copied over the first cells of the memory, or it is too long and
  refused before any of it is copied. A shorter image does not clear what a longer one
  left behind it, so after several loads the cells may hold bytes of different images.
  What is proved:

    1. `load_of_long` and `load_of_fits`: what one load answers and what it changes.
    2. `overlaid_loads`: a cell holds the byte of the last image that reached it, by
       induction on the loads.
    3. `step_behind` and `run_behind`: what the journal held before has no part in a run,
       so on a fresh machine zero bytes behind an image have none (`runAlike_padded`).
    4. `loads_overlay` puts this together.
-/

namespace ByteMachine

/-- Whether a load of the image writes the cell: it is not refused, and the image is longer than the
address. -/
def Image.Reaches (image : Image) (a : UInt8) : Prop :=
  image.size ≤ capacity ∧ a.toNat < image.size

/-- The image with zero bytes behind it. -/
def Image.padded (image : Image) (zeros : Nat) : Image := ⟨image.bytes ++ List.replicate zeros 0⟩

/-- What a cell that held `former` holds after loads of the images, the last one at the end. -/
inductive Overlaid (former a : UInt8) : List Image → UInt8 → Prop
  | kept {images : List Image} (none : ∀ image ∈ images, ¬ image.Reaches a) :
      Overlaid former a images former
  | loaded {before after : List Image} {image : Image} {b : UInt8} (fits : image.size ≤ capacity)
      (byte : image.bytes[a.toNat]? = some b) (last : ∀ later ∈ after, ¬ later.Reaches a) :
      Overlaid former a (before ++ image :: after) b

theorem Overlaid.concat {former a b : UInt8} {images : List Image} {image : Image}
    (h : Overlaid former a images b) (other : ¬ image.Reaches a) :
    Overlaid former a (images ++ [image]) b := by
  have last : ∀ later ∈ [image], ¬ later.Reaches a := List.forall_mem_singleton.mpr other
  cases h with
  | kept none => exact .kept (List.forall_mem_append.mpr ⟨none, last⟩)
  | loaded fits byte later =>
    rw [List.append_assoc, List.cons_append]
    exact .loaded fits byte (List.forall_mem_append.mpr ⟨later, last⟩)

namespace Memory

theorem read_overlay (m : Memory) (bytes : List UInt8) (a : UInt8) :
    (m.overlay bytes).read a = bytes[a.toNat]?.getD (m.read a) := by
  have cell := get?_overlay m bytes a.toNat_lt
  rw [get?_eq_read, get?_eq_read] at cell
  exact Option.some.inj cell

/-- Zero bytes behind an image leave an empty memory as it is. -/
theorem overlay_padded (bytes : List UInt8) (zeros : Nat) :
    zero.overlay (bytes ++ List.replicate zeros 0) = zero.overlay bytes := by
  apply ext_read
  intro a
  have empty : zero.read a = 0 := Vector.getElem_replicate a.toNat_lt
  rw [read_overlay, read_overlay, empty]
  by_cases inside : a.toNat < bytes.length
  · rw [List.getElem?_append_left inside]
  · have behind : bytes.length ≤ a.toNat := Nat.le_of_not_lt inside
    rw [List.getElem?_append_right behind, List.getElem?_eq_none behind, List.getElem?_replicate]
    split <;> rfl

end Memory

namespace Machine

/-! ## One load -/

section Load
variable {m : Machine} {image : Image} {a : UInt8}

theorem load_of_long (long : capacity < image.size) :
    m.load image = .error (.loadOverflow image.size) ∧ m.loaded image = m := by
  have refused : m.state.memory.load image = none := if_neg (Nat.not_le.mpr long)
  rw [loaded, load, refused]
  exact ⟨rfl, rfl⟩

theorem load_of_fits (fits : image.size ≤ capacity) :
    m.load image = .ok (m.loaded image) ∧
      m.loaded image =
        { m with
          state := { m.state with memory := m.state.memory.overlay image.bytes }
          journal := m.journal.push (.loaded image.size) } := by
  have copied : m.state.memory.load image = some (m.state.memory.overlay image.bytes) :=
    if_pos fits
  rw [loaded, load, copied]
  exact ⟨rfl, rfl⟩

/-- The byte of an image is in the cell that the image reaches. -/
theorem read_loaded_of_reaches (reaches : image.Reaches a) :
    image.bytes[a.toNat]? = some ((m.loaded image).state.memory.read a) := by
  have inside := List.getElem?_eq_getElem reaches.2
  rw [(load_of_fits reaches.1).2, Memory.read_overlay, inside]
  rfl

/-- Any other cell keeps what it held. -/
theorem read_loaded_of_not (other : ¬ image.Reaches a) :
    (m.loaded image).state.memory.read a = m.state.memory.read a := by
  by_cases fits : image.size ≤ capacity
  · have behind : image.bytes.length ≤ a.toNat :=
      Nat.le_of_not_lt fun inside => other ⟨fits, inside⟩
    rw [(load_of_fits fits).2, Memory.read_overlay, List.getElem?_eq_none behind]
    rfl
  · rw [(load_of_long (Nat.lt_of_not_le fits)).2]

end Load

/-! ## Any number of loads -/

/-- The machine after loads of the images in turn. Those that are refused leave it as it is. -/
def loads (m : Machine) (images : List Image) : Machine := images.foldl loaded m

theorem loads_concat (m : Machine) (images : List Image) (image : Image) :
    m.loads (images ++ [image]) = (m.loads images).loaded image := List.foldl_concat ..

theorem sameButMemory_loads (m : Machine) (images : List Image) :
    m.SameButMemory (m.loads images) := by
  induction images using List.reverseRecOn with
  | nil => rfl
  | append_singleton images image ih =>
    rw [SameButMemory, loads_concat, loaded_eq, ih]

/-- A cell holds the byte of the last image that reached it, or what it held before. -/
theorem overlaid_loads (m : Machine) (images : List Image) (a : UInt8) :
    Overlaid (m.state.memory.read a) a images ((m.loads images).state.memory.read a) := by
  induction images using List.reverseRecOn with
  | nil => exact .kept nofun
  | append_singleton images image ih =>
    rw [loads_concat]
    by_cases reaches : image.Reaches a
    · exact .loaded reaches.1 (read_loaded_of_reaches reaches) nofun
    · rw [read_loaded_of_not reaches]
      exact ih.concat reaches

/-! ## Journals -/

/-- The machine with events in front of its journal. -/
def behind (m : Machine) (events : Array Event) : Machine :=
  { m with journal := events ++ m.journal }

end Machine

/-- The outcome with events in front of the journal of its machine. -/
def Outcome.behind {σ α : Type} (o : Outcome σ α) (events : Array Event) : Outcome σ α :=
  { o with machine := o.machine.behind events }

namespace Machine

section Journals
variable {σ : Type} [Sink σ]

theorem note_behind (m : Machine) (events : Array Event) (e : Event) :
    (m.behind events).note e = (m.note e).behind events := by
  rw [note, note, behind, behind, Array.append_push]

theorem fail_behind (m : Machine) (events : Array Event) (fault : Fault) :
    (m.behind events).fail fault = (m.fail fault).behind events :=
  note_behind { m with state := { m.state with status := .faulted } } events _

theorem record_behind (m : Machine) (events : Array Event) :
    (m.behind events).record = m.record.behind events := by
  have rows : ∀ b : Bool, (if b then (events ++ m.journal).push (.row (.ofState m.state))
      else events ++ m.journal) =
        events ++ if b then m.journal.push (.row (.ofState m.state)) else m.journal := by
    intro b
    cases b with
    | true => exact Array.push_append
    | false => rfl
  exact congrArg (Machine.mk m.config m.state m.record.rows) (rows m.config.logRows)

/-- A step does not look at the journal. -/
theorem step_behind (m : Machine) (events : Array Event) (out : σ) :
    (m.behind events).step out = (m.step out).behind events := by
  cases status : m.state.status with
  | halted reason =>
    have halted : (m.behind events).state.status = .halted reason := status
    rw [step_of_halted status, step_of_halted halted]
    rfl
  | faulted =>
    have faulted : (m.behind events).state.status = .faulted := status
    rw [step_of_faulted status, step_of_faulted faulted]
    rfl
  | running =>
    have running : (m.behind events).state.status = .running := status
    cases stepEnd_of_running status out with
    | unread fault fetched same =>
      have fetched : (m.behind events).fetch = .error fault := fetched
      rw [same, step_of_fetch_error running fetched, record_behind, fail_behind]
      rfl
    | failed i fault fetched wrong same =>
      have fetched : (m.behind events).fetch = .ok i := fetched
      rw [same, step_of_execute_fault running fetched wrong, record_behind]
      have stopped := fail_behind { m.record with state := (i.execute m.state out).state } events fault
      exact congrArg (Outcome.mk · _ _) stopped
    | counted i fetched ok same =>
      have fetched : (m.behind events).fetch = .ok i := fetched
      rw [same, step_of_execute_ok running fetched ok, record_behind]
      rfl

/-- Nor does a run. -/
theorem run_behind (m : Machine) (events : Array Event) (out : σ) :
    (m.behind events).run out = (m.run out).behind events := by
  fun_induction run m out with
  | case1 m out running below next fault stepped =>
    have same : (m.behind events).step out = next.behind events := step_behind m events out
    have stepped' : ((m.behind events).step out).answer = .error fault := by
      rw [same]
      exact stepped
    rw [run_of_step_error (m := m.behind events) running below stepped', same]
    rfl
  | case2 m out running below next status stepped ih =>
    have same : (m.behind events).step out = next.behind events := step_behind m events out
    have stepped' : ((m.behind events).step out).answer = .ok status := by
      rw [same]
      exact stepped
    rw [run_of_step_ok (m := m.behind events) running below stepped', same]
    exact ih
  | case3 m out running reached =>
    rw [run_of_overdue (m := m.behind events) running (UInt64.not_lt.mp reached)]
    exact congrArg (Outcome.mk · _ _) (note_behind m.exhaust events _)
  | case4 m out reason stopped =>
    rw [run_of_halted (m := m.behind events) stopped]
    exact congrArg (Outcome.mk · _ _) (note_behind m events _)
  | case5 m out stopped =>
    rw [run_of_faulted (m := m.behind events) stopped]
    rfl

theorem report_behind (m : Machine) (events : Array Event) :
    (m.behind events).report = m.report := by
  rw [report, report, run_behind]
  rfl

end Journals

/-! ## The law -/

/-- Whether the machines do the same in every respect, but that their journals begin with the one
event and with the other. -/
structure RunAlike (first second : Machine) (event event' : Event) : Prop where
  state : second.state = first.state
  config : second.config = first.config
  run : ∀ {σ : Type} [Sink σ] (out : σ), ∃ done : Outcome σ HaltReason,
    first.run out = done.behind #[event] ∧ second.run out = done.behind #[event']
  report : second.report = first.report

theorem runAlike_behind (m : Machine) (event event' : Event) :
    RunAlike (m.behind #[event]) (m.behind #[event']) event event' where
  state := rfl
  config := rfl
  run out := ⟨m.run out, run_behind m #[event] out, run_behind m #[event'] out⟩
  report := by rw [report_behind, report_behind]

/-- Zero bytes behind an image make no difference on a fresh machine. -/
theorem runAlike_padded {image : Image} {zeros : Nat} (fits : image.size + zeros ≤ capacity)
    (config : Config) : ∃ first second : Machine,
      ofImage image config = .ok first ∧ ofImage (image.padded zeros) config = .ok second ∧
      RunAlike first second (.loaded image.size) (.loaded (image.size + zeros)) := by
  have length : (image.padded zeros).size = image.size + zeros := by
    simp [Image.padded, Image.size]
  have short : image.size ≤ capacity := Nat.le_trans (Nat.le_add_right _ zeros) fits
  have same : loadedState (image.padded zeros) config = loadedState image config :=
    congrArg (fun memory => { State.initial config.stackTop with memory := memory })
      (Memory.overlay_padded image.bytes zeros)
  let m : Machine := { image.fresh config with journal := #[] }
  have first : image.fresh config = m.behind #[.loaded image.size] := rfl
  have second : (image.padded zeros).fresh config = m.behind #[.loaded (image.size + zeros)] := by
    rw [Image.fresh, same, length]
    rfl
  refine ⟨_, _, ?_, ?_, runAlike_behind m _ _⟩
  · rw [Image.ofImage_eq, if_pos short, first]
  · rw [Image.ofImage_eq, length, if_pos fits, second]

/-- A load is refused and changes nothing, or changes the memory and nothing else, but that the
journal tells of it. After any number of loads each cell holds the byte of the last image that was
not refused and long enough to reach it, or what it held before. On a fresh machine an image and the
same image with zero bytes behind it run alike. -/
theorem loads_overlay (m : Machine) :
    (∀ image : Image, capacity < image.size →
      m.load image = .error (.loadOverflow image.size) ∧ m.loaded image = m) ∧
    (∀ image : Image, image.size ≤ capacity → m.load image = .ok (m.loaded image) ∧
      m.loaded image =
        { m with
          state := { m.state with memory := (m.loaded image).state.memory }
          journal := m.journal.push (.loaded image.size) }) ∧
    (∀ images : List Image, m.SameButMemory (m.loads images) ∧
      ∀ a, Overlaid (m.state.memory.read a) a images ((m.loads images).state.memory.read a)) ∧
    ∀ (image : Image) (zeros : Nat) (config : Config), image.size + zeros ≤ capacity →
      ∃ first second : Machine,
        ofImage image config = .ok first ∧ ofImage (image.padded zeros) config = .ok second ∧
        RunAlike first second (.loaded image.size) (.loaded (image.size + zeros)) := by
  refine ⟨fun image long => load_of_long long, ?_, ?_, fun _ _ config fits => runAlike_padded fits config⟩
  · intro image fits
    obtain ⟨accepted, copied⟩ := load_of_fits (m := m) fits
    refine ⟨accepted, ?_⟩
    conv_lhs => rw [copied]
    rw [copied]
  · intro images
    exact ⟨sameButMemory_loads m images, overlaid_loads m images⟩

/-- An image of one byte too many. -/
def tooLong : Image := ⟨List.replicate 257 0xFF⟩

/-- Three bytes, an image that is refused, and a single byte: the last one is in the first cell, and
of the first one the other two bytes are left. -/
theorem loads_overlay_short_over_long :
    let m := initial {}
    let images : List Image := [⟨[0x82, 0x00, 0x08]⟩, tooLong, ⟨[0x01]⟩]
    capacity < tooLong.size ∧ m.load tooLong = .error (.loadOverflow 257) ∧ m.loaded tooLong = m ∧
    Overlaid 0 0 images 0x01 ∧ Overlaid 0 2 images 0x08 ∧
    (⟨[0x01]⟩ : Image).size + 255 ≤ capacity ∧
    ∃ first second : Machine, ofImage ⟨[0x01]⟩ {} = .ok first ∧
      ofImage ((⟨[0x01]⟩ : Image).padded 255) {} = .ok second ∧ second.report = first.report := by
  intro m images
  have size : tooLong.size = 257 := List.length_replicate
  have long : capacity < tooLong.size := by rw [size]; decide
  have room : (⟨[0x01]⟩ : Image).size + 255 ≤ capacity := by decide
  obtain ⟨refused, -, sequence, padded⟩ := loads_overlay m
  obtain ⟨answer, same⟩ := refused tooLong long
  rw [size] at answer
  have cells := (sequence images).2
  have front : (m.loads images).state.memory.read 0 = 0x01 := by decide +kernel
  have third : (m.loads images).state.memory.read 2 = 0x08 := by decide +kernel
  have empty : m.state.memory.read 0 = 0 ∧ m.state.memory.read 2 = 0 := by decide +kernel
  obtain ⟨first, second, loaded, loaded', alike⟩ := padded ⟨[0x01]⟩ 255 {} room
  refine ⟨long, answer, same, ?_, ?_, room, first, second, loaded, loaded', alike.report⟩
  · rw [← front, ← empty.1]
    exact cells 0
  · rw [← third, ← empty.2]
    exact cells 2

end Machine

end ByteMachine
