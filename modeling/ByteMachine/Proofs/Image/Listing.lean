import ByteMachine.Image.Listing
import ByteMachine.Proofs.Instruction.Codec
import ByteMachine.Proofs.Source.Written
import ByteMachine.Proofs.Text.Lines

/-
  Listings read back. The rows of a listing split the bytes of the image, each
  row into the bytes of one instruction or one byte that starts none. The text
  in front of a description is seventeen bytes in every row of an image that
  the memory can hold, so a listing still has the descriptions in it, and:

    1. If every row is an instruction, the descriptions are a source of the image.
    2. Otherwise the first row that is none makes the descriptions malformed, in
       its line, where the point of `.db` stands.
-/

namespace ByteMachine.Image

/-! ## The rows of an image -/

namespace Row

/-- Whether the row has the bytes of its instruction, or one byte if it has none. -/
def Faithful (row : Row) : Prop :=
  match row.content with
  | .ok i => row.bytes = i.encode
  | .error _ => ∃ byte, row.bytes = [byte]

/-- Whether the row has no instruction. -/
def isData (row : Row) : Bool :=
  match row.content with
  | .ok _ => false
  | .error _ => true

theorem Faithful.length_le {row : Row} (h : row.Faithful) : row.bytes.length ≤ 3 := by
  unfold Faithful at h
  split at h
  · next i _ =>
    rw [h, i.length_encode]
    exact i.size_le_three
  · obtain ⟨byte, h⟩ := h
    rw [h, List.length_singleton]
    omega

end Row

theorem faithful_rowsFrom (address : Nat) (bytes : List UInt8) :
    ∀ row ∈ rowsFrom address bytes, row.Faithful := by
  fun_induction rowsFrom address bytes with
  | case1 => simp
  | case2 address byte rest i decoded ih =>
    rw [List.forall_mem_cons]
    exact ⟨Instruction.take_size_of_decode decoded, ih⟩
  | case3 address byte rest e _ ih =>
    rw [List.forall_mem_cons]
    exact ⟨⟨byte, rfl⟩, ih⟩

/-- The bytes of the rows, one after the other, are the bytes that were listed. -/
theorem bytes_rowsFrom (address : Nat) (bytes : List UInt8) :
    (rowsFrom address bytes).flatMap Row.bytes = bytes := by
  fun_induction rowsFrom address bytes with
  | case1 => rfl
  | case2 address byte rest i _ ih => rw [List.flatMap_cons, ih, List.take_append_drop]
  | case3 address byte rest e _ ih => rw [List.flatMap_cons, ih]; rfl

theorem address_rowsFrom (address : Nat) (bytes : List UInt8) :
    ∀ row ∈ rowsFrom address bytes, row.address < address + bytes.length := by
  fun_induction rowsFrom address bytes with
  | case1 => simp
  | case2 address byte rest i decoded ih =>
    have size := Instruction.size_le_of_decode decoded
    rw [List.length_drop] at ih
    rw [List.forall_mem_cons]
    refine ⟨?_, fun row hr => ?_⟩
    · simp
    · have := ih row hr
      omega
  | case3 address byte rest e _ ih =>
    rw [List.forall_mem_cons, List.length_cons]
    refine ⟨by simp, fun row hr => ?_⟩
    have := ih row hr
    omega

/-- Where an instruction stands, the listing has its row. -/
theorem rowsFrom_encode_append (address : Nat) (i : Instruction) (rest : List UInt8) :
    rowsFrom address (i.encode ++ rest) =
      ⟨address, i.encode, .ok i⟩ :: rowsFrom (address + i.size) rest := by
  have decoded := i.decode_encode_append rest
  have front : (i.encode ++ rest).take i.size = i.encode := Instruction.take_size_of_decode decoded
  have back : (i.encode ++ rest).drop i.size = rest := by rw [← i.length_encode, List.drop_left]
  -- The listing looks at the first byte, so the instruction has to show its own.
  rw [Instruction.encode, List.cons_append] at decoded front back ⊢
  rw [rowsFrom, decoded]
  dsimp only
  rw [front, back]

/-- Bytes of instructions have no other rows. -/
theorem isData_rowsFrom_encode (address : Nat) (is : List Instruction) :
    ∀ row ∈ rowsFrom address (is.flatMap Instruction.encode), row.isData = false := by
  induction is generalizing address with
  | nil => simp [rowsFrom]
  | cons i is ih =>
    rw [List.flatMap_cons, rowsFrom_encode_append, List.forall_mem_cons]
    exact ⟨rfl, ih _⟩

/-- Rows that all have an instruction show the instructions whose bytes they have. -/
theorem exists_instructions {rows : List Row} (faithful : ∀ row ∈ rows, row.Faithful)
    (read : ∀ row ∈ rows, row.isData = false) :
    ∃ is : List Instruction,
      (rows.map fun row => row.description.toList) = (is.map fun i => i.text.toList) ∧
      rows.flatMap Row.bytes = is.flatMap Instruction.encode := by
  induction rows with
  | nil => exact ⟨[], rfl, rfl⟩
  | cons row rows ih =>
    rw [List.forall_mem_cons] at faithful read
    obtain ⟨is, texts, bytes⟩ := ih faithful.2 read.2
    obtain ⟨address, own, content⟩ := row
    cases content with
    | error e => cases read.1
    | ok i =>
      have same : own = i.encode := faithful.1
      subst same
      exact ⟨i :: is, by rw [List.map_cons, texts]; rfl, by rw [List.flatMap_cons, bytes]; rfl⟩

/-! ## The lines of a listing -/

namespace Row

/-- What stands in front of the description. -/
def heading (row : Row) : List Char :=
  '0' :: 'x' :: (Text.upperHex row.address).toList ++ [':', ' ', ' '] ++ row.paddedColumn.toList

/-- The line of the row, without the newline. -/
def line (row : Row) : List Char := row.heading ++ row.description.toList

theorem toList_text (row : Row) : row.text.toList = row.line ++ ['\n'] := by
  simp [text, line, heading]

theorem length_hexColumn (row : Row) : row.hexColumn.length = 3 * row.bytes.length - 1 := by
  unfold hexColumn
  generalize row.bytes = bytes
  induction bytes with
  | nil => rfl
  | cons b bs ih =>
    have two := Text.length_upperHex b.toNat_lt
    cases bs with
    | nil => simpa using two
    | cons c cs =>
      rw [List.map_cons] at ih ⊢
      rw [List.map_cons, String.intercalate_cons_cons, String.length_append, String.length_append,
        ih, two]
      have space : " ".length = 1 := rfl
      simp only [List.length_cons]
      omega

/-- The characters in front of a description. -/
def headingLetters : List Char := "0123456789ABCDEFx: ".toList

theorem mem_headingLetters_of_upperHex {n : Nat} {c : Char} (hc : c ∈ (Text.upperHex n).toList) :
    c ∈ headingLetters := by
  rw [Text.upperHex, String.toList_ofList, List.mem_map] at hc
  obtain ⟨c, hc, rfl⟩ := hc
  obtain ⟨d, hd, rfl⟩ := Text.exists_digitChar_of_mem_padded (by decide) hc
  have all : ∀ d < 16, (Nat.digitChar d).toUpper ∈ headingLetters := by decide +kernel
  exact all d hd

theorem mem_headingLetters_of_hexColumn {row : Row} {c : Char} (hc : c ∈ row.hexColumn.toList) :
    c ∈ headingLetters := by
  unfold hexColumn at hc
  generalize row.bytes = bytes at hc
  induction bytes with
  | nil => simp at hc
  | cons b bs ih =>
    cases bs with
    | nil =>
      rw [List.map_singleton, String.intercalate_singleton] at hc
      exact mem_headingLetters_of_upperHex hc
    | cons b' bs =>
      rw [List.map_cons, List.map_cons, String.intercalate_cons_cons, String.toList_append,
        String.toList_append, List.mem_append, List.mem_append] at hc
      rcases hc with (hc | hc) | hc
      · exact mem_headingLetters_of_upperHex hc
      · rw [List.mem_singleton.mp hc]
        decide
      · exact ih hc

theorem mem_headingLetters {row : Row} {c : Char} (hc : c ∈ row.heading) : c ∈ headingLetters := by
  -- In order: the mark, the address, what separates it, the bytes, and the blanks behind them.
  simp only [heading, paddedColumn, List.cons_append, List.mem_cons, List.mem_append,
    String.toList_append, String.toList_ofList, List.mem_replicate, List.not_mem_nil,
    or_false] at hc
  rcases hc with rfl | rfl | (hc | hc) | hc | ⟨-, rfl⟩
  · decide +kernel
  · decide +kernel
  · exact mem_headingLetters_of_upperHex hc
  · rcases hc with rfl | rfl | rfl <;> decide +kernel
  · exact mem_headingLetters_of_hexColumn hc
  · decide +kernel

theorem oneLine_heading (row : Row) : Text.OneLine row.heading := by
  have all : Text.OneLine headingLetters := by decide +kernel
  exact fun c hc => all c (mem_headingLetters hc)

/-- All characters in front of a description are bytes. -/
theorem byteLength_heading (row : Row) : Text.byteLength row.heading = row.heading.length := by
  have all : headingLetters.all (fun c => c.utf8Size == 1) = true := by decide +kernel
  refine Text.byteLength_eq_length fun c hc => ?_
  exact beq_iff_eq.mp (List.all_eq_true.mp all c (mem_headingLetters hc))

/-- A two-digit address and at most three bytes leave room up to the description column. -/
theorem length_heading {row : Row} (address : row.address < 256) (bytes : row.bytes.length ≤ 3) :
    row.heading.length = descriptionColumn := by
  have two := Text.length_upperHex address
  have column := row.length_hexColumn
  simp only [heading, paddedColumn, List.length_append, List.length_cons, String.length_toList,
    String.length_append, String.length_ofList, List.length_replicate, List.length_nil, two,
    descriptionColumn]
  omega

theorem oneLine_message (e : DecodeError) : Text.OneLine e.message.toList := by
  unfold DecodeError.message
  split <;> simp

theorem oneLine_description (row : Row) : Text.OneLine row.description.toList := by
  unfold description
  split
  · next i _ => exact Source.oneLine_text i
  · next e _ =>
    have digits : Text.OneLine (row.bytes.flatMap fun b => (Text.upperHex b.toNat).toList) := by
      intro c hc
      obtain ⟨b, -, hc⟩ := List.mem_flatMap.mp hc
      exact Text.oneLine_upperHex b.toNat c hc
    simp [oneLine_message, List.flatMap_map, digits]

theorem oneLine_line (row : Row) : Text.OneLine row.line :=
  Text.oneLine_append.mpr ⟨row.oneLine_heading, row.oneLine_description⟩

end Row

/-- The lines above the rows. -/
def headerLines (image : Image) : List (List Char) :=
  ["; LS-8 Disassembly".toList, "; Size: ".toList ++ Nat.toDigits 10 image.size ++ " bytes".toList, []]

/-- The lines of a listing that show bytes. -/
def shownLines (listing : String) : List (List Char) :=
  (Text.lines listing.toList).filter fun line => line.take 2 == ['0', 'x']

/-- Whether a line of a listing shows a byte as data. -/
def showsData (line : List Char) : Bool := (line.drop descriptionColumn).take 3 == ['.', 'd', 'b']

theorem toList_listing (image : Image) :
    image.listing.toList = (image.headerLines ++ image.rows.map Row.line).flatMap (· ++ ['\n']) := by
  have rows : (String.join (image.rows.map Row.text)).toList =
      (image.rows.map Row.line).flatMap (· ++ ['\n']) := by
    rw [String.toList_join, List.flatMap_map, List.flatMap_map]
    exact congrArg (List.flatMap · image.rows) (funext Row.toList_text)
  unfold listing
  rw [String.toList_append, rows, List.flatMap_append]
  simp [headerLines]

theorem lines_listing (image : Image) :
    Text.lines image.listing.toList = image.headerLines ++ image.rows.map Row.line := by
  rw [toList_listing, Text.lines_flatMap]
  intro line hl
  rcases List.mem_append.mp hl with hl | hl
  · simp only [headerLines, List.mem_cons, List.not_mem_nil, or_false] at hl
    rcases hl with rfl | rfl | rfl <;> simp
  · obtain ⟨row, -, rfl⟩ := List.mem_map.mp hl
    exact row.oneLine_line

/-- The lines that show bytes are those of the rows. -/
theorem shownLines_listing (image : Image) :
    shownLines image.listing = image.rows.map Row.line := by
  rw [shownLines, lines_listing, List.filter_append]
  have headers : image.headerLines.filter (fun line => line.take 2 == ['0', 'x']) = [] := by
    simp [headerLines]
  have rows : ∀ line ∈ image.rows.map Row.line, (line.take 2 == ['0', 'x']) = true := by
    intro line hl
    obtain ⟨row, -, rfl⟩ := List.mem_map.mp hl
    rfl
  rw [headers, List.filter_eq_self.mpr rows, List.nil_append]

/-- In a row of an image that fits, the description starts at the description column. -/
theorem length_heading_of_mem {image : Image} (fits : image.size ≤ capacity) {row : Row}
    (hr : row ∈ image.rows) : row.heading.length = descriptionColumn := by
  have inside := address_rowsFrom 0 image.bytes row hr
  have faithful := faithful_rowsFrom 0 image.bytes row hr
  refine Row.length_heading ?_ faithful.length_le
  rw [size, capacity] at fits
  omega

theorem drop_line_of_mem {image : Image} (fits : image.size ≤ capacity) {row : Row}
    (hr : row ∈ image.rows) : row.line.drop descriptionColumn = row.description.toList := by
  rw [Row.line, ← length_heading_of_mem fits hr, List.drop_left]

/-- A row without an instruction says so in its first characters. -/
theorem description_of_isData {row : Row} (h : row.isData = true) :
    ∃ rest, row.description.toList = '.' :: 'd' :: 'b' :: rest := by
  obtain ⟨address, bytes, content⟩ := row
  cases content with
  | ok i => cases h
  | error e =>
    unfold Row.description
    simp only [String.toList_append, List.append_assoc]
    exact ⟨_, rfl⟩

/-- A row with an instruction starts with a mnemonic. -/
theorem description_of_not_isData {row : Row} (h : row.isData = false) :
    (row.description.toList.take 3 == ['.', 'd', 'b']) = false := by
  have letters : ∀ (op : Opcode) (rest : List Char),
      ((op.mnemonic.toList ++ rest).take 3 == ['.', 'd', 'b']) = false := by
    intro op rest
    cases op <;> rfl
  obtain ⟨address, bytes, content⟩ := row
  cases content with
  | ok i =>
    have spelled : i.text.toList = i.opcode.mnemonic.toList ++ i.operandText.toList :=
      String.toList_append
    show (i.text.toList.take 3 == ['.', 'd', 'b']) = false
    rw [spelled]
    exact letters i.opcode i.operandText.toList
  | error e => cases h

theorem showsData_line {image : Image} (fits : image.size ≤ capacity) {row : Row}
    (hr : row ∈ image.rows) : showsData row.line = row.isData := by
  rw [showsData, drop_line_of_mem fits hr]
  cases h : row.isData with
  | false => exact description_of_not_isData h
  | true =>
    obtain ⟨rest, starts⟩ := description_of_isData h
    rw [starts]
    rfl

/-- The source that a listing shows has the descriptions of the rows as its lines. -/
theorem lines_shownSource {image : Image} (fits : image.size ≤ capacity) :
    Text.lines (shownSource image.listing).toList =
      image.rows.map fun row => row.description.toList := by
  have shown : shownSource image.listing =
      String.ofList ((shownLines image.listing).flatMap
        fun line => line.drop descriptionColumn ++ ['\n']) := rfl
  have written : (image.rows.map Row.line).flatMap (fun line => line.drop descriptionColumn ++ ['\n'])
      = (image.rows.map fun row => row.description.toList).flatMap (· ++ ['\n']) := by
    rw [List.flatMap_map, List.flatMap_map]
    exact List.flatMap_congr fun row hr => by rw [drop_line_of_mem fits hr]
  rw [shown, String.toList_ofList, shownLines_listing, written, Text.lines_flatMap]
  intro line hl
  obtain ⟨row, -, rfl⟩ := List.mem_map.mp hl
  exact row.oneLine_description

/-! ## Assembling what a listing shows -/

/-- A line that starts with a point is malformed there. -/
theorem parse_point (line : Nat) (rest : List Char) :
    Source.Statement.parse line (String.ofList ('.' :: rest)) =
      .error (.malformed line 1 (.unexpectedInput ".")) := by
  have none : ∀ rule : Source.Rule, rule.reach ('.' :: rest) = 0 := by
    intro rule
    cases rule with
    | register => cases rest <;> rfl
    | _ => rfl
  rw [Source.Statement.parse, Source.Statement.lineTokens, Source.Token.scan, String.toList_ofList,
    Source.Token.scanFrom_stray 0 none rfl rfl]
  rfl

/-- A listing with an instruction in every row shows a source of the image. -/
theorem assemble_of_read {image : Image} (fits : image.size ≤ capacity)
    (read : ∀ row ∈ image.rows, row.isData = false) :
    Source.assemble (shownSource image.listing) = .ok image := by
  obtain ⟨is, texts, bytes⟩ := exists_instructions (faithful_rowsFrom 0 image.bytes) read
  have same : is.flatMap Instruction.encode = image.bytes := by rw [← bytes]; exact bytes_rowsFrom 0 _
  have written : Text.lines (shownSource image.listing).toList = is.map fun i => i.text.toList := by
    rw [lines_shownSource fits]
    exact texts
  rw [Source.assemble_written written (by rw [same]; exact fits), same]

/-- A listing whose row `k`, counted from 0, is the first without an instruction shows a source
that is malformed in the line of the row. -/
theorem assemble_of_data {image : Image} (fits : image.size ≤ capacity) {k : Nat} {row : Row}
    (hr : image.rows[k]? = some row) (data : row.isData = true)
    (read : ∀ row ∈ image.rows.take k, row.isData = false) :
    Source.assemble (shownSource image.listing) =
      .error (.malformed (k + 1) 1 (.unexpectedInput ".")) := by
  obtain ⟨hk, rfl⟩ := List.getElem?_eq_some_iff.mp hr
  have faithful : ∀ row ∈ image.rows, row.Faithful := faithful_rowsFrom 0 image.bytes
  obtain ⟨is, texts, -⟩ := exists_instructions
    (fun row h => faithful row (List.mem_of_mem_take h)) read
  have count : is.length = k := by
    have lengths := congrArg List.length texts
    simp only [List.length_map, List.length_take] at lengths
    omega
  obtain ⟨rest, starts⟩ := description_of_isData data
  -- The lines are the instructions, the first line that is none, and lines that no one reads.
  have written : Text.lines (shownSource image.listing).toList =
      (is.map fun i => i.text.toList) ++ ('.' :: 'd' :: 'b' :: rest)
        :: ((image.rows.drop (k + 1)).map fun row => row.description.toList) := by
    have parts : image.rows = image.rows.take k ++ image.rows[k] :: image.rows.drop (k + 1) := by
      rw [← List.drop_eq_getElem_cons hk, List.take_append_drop]
    have shown := congrArg (List.map fun row => row.description.toList) parts
    rw [List.map_append, List.map_cons] at shown
    rw [lines_shownSource fits, shown, texts, starts]
  refine Source.assemble_malformed written ?_
  rw [parse_point, count, Nat.add_comm]

/-- What assembling the source that a listing shows comes to. -/
structure Relisted (image : Image) : Prop where
  /-- The description starts at the same byte in every line. -/
  column : ∀ line ∈ shownLines image.listing,
    Text.byteLength (line.take descriptionColumn) = descriptionColumn
  /-- The answer is the image, or else the first line that shows data is malformed in front. -/
  answer : Source.assemble (shownSource image.listing) =
    match (shownLines image.listing).findIdx? showsData with
    | none => .ok image
    | some k => .error (.malformed (k + 1) 1 (.unexpectedInput "."))
  /-- What that error says. -/
  message : Source.FormError.message (.unexpectedInput ".") = "Unexpected input: \".\""
  /-- The listing of what was assembled shows no data. -/
  assembled : ∀ source, Source.assemble source = .ok image →
    (shownLines image.listing).findIdx? showsData = none
  /-- There is no answer that is another image. -/
  unique : ∀ other, Source.assemble (shownSource image.listing) = .ok other → other = image

theorem findIdx?_shownLines {image : Image} (fits : image.size ≤ capacity) :
    (shownLines image.listing).findIdx? showsData = image.rows.findIdx? Row.isData := by
  have same : ∀ rows : List Row, (∀ row ∈ rows, showsData row.line = row.isData) →
      (rows.map Row.line).findIdx? showsData = rows.findIdx? Row.isData := by
    intro rows h
    induction rows with
    | nil => rfl
    | cons row rows ih =>
      rw [List.forall_mem_cons] at h
      rw [List.map_cons, List.findIdx?_cons, List.findIdx?_cons, h.1, ih h.2]
  rw [shownLines_listing]
  exact same image.rows fun row hr => showsData_line fits hr

/-- A listing of an image that fits is read back as the image, or not at all. -/
theorem relisted {image : Image} (fits : image.size ≤ capacity) : image.Relisted := by
  have found := findIdx?_shownLines fits
  have answer : Source.assemble (shownSource image.listing) =
      match (shownLines image.listing).findIdx? showsData with
      | none => .ok image
      | some k => .error (.malformed (k + 1) 1 (.unexpectedInput ".")) := by
    rw [found]
    cases h : image.rows.findIdx? Row.isData with
    | none =>
      have read := List.findIdx?_eq_none_iff.mp h
      exact assemble_of_read fits read
    | some k =>
      obtain ⟨hk, data, before⟩ := List.findIdx?_eq_some_iff_getElem.mp h
      refine assemble_of_data fits (List.getElem?_eq_getElem hk) data fun row hr => ?_
      obtain ⟨j, hj, rfl⟩ := List.mem_take_iff_getElem.mp hr
      simpa using before j (by omega)
  refine ⟨fun line hl => ?_, answer, by decide, fun source assembled => ?_, fun other h => ?_⟩
  · rw [shownLines_listing] at hl
    obtain ⟨row, hr, rfl⟩ := List.mem_map.mp hl
    rw [Row.line, ← length_heading_of_mem fits hr, List.take_left, row.byteLength_heading]
  · obtain ⟨ls, -, -, -, -, bytes, -⟩ := Source.exists_lines_of_assemble assembled
    rw [found]
    refine List.findIdx?_eq_none_iff.mpr ?_
    rw [rows, bytes, ← Source.code_of_lines]
    exact isData_rowsFrom_encode 0 _
  · rw [answer] at h
    split at h
    · cases h; rfl
    · cases h

/-- A load, a byte that is no opcode, and a halt. -/
theorem relisted_load_data_halt :
    (⟨[0x82, 0, 8, 0xFF, 1]⟩ : Image).size ≤ capacity ∧ (⟨[0x82, 0, 8, 0xFF, 1]⟩ : Image).Relisted ∧
      Source.assemble (shownSource (⟨[0x82, 0, 8, 0xFF, 1]⟩ : Image).listing) =
        .error (.malformed 2 1 (.unexpectedInput ".")) := by
  have fits : (⟨[0x82, 0, 8, 0xFF, 1]⟩ : Image).size ≤ capacity := by decide
  have data : (rows ⟨[0x82, 0, 8, 0xFF, 1]⟩).findIdx? Row.isData = some 1 := by cbv
  have answer := (relisted fits).answer
  rw [findIdx?_shownLines fits, data] at answer
  exact ⟨fits, relisted fits, answer⟩

end ByteMachine.Image
