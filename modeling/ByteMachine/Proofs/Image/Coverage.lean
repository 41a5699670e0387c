import ByteMachine.Proofs.Image.Listing

/-
  What a listing shows of its image. A line is read for its address, the bytes in
  its column and the text behind them, without a look at the image it was written
  for. What is read of all lines covers the image:

    1. `Shown.ofLine_line`: a line is read back as the row that it was written for.
    2. `addresses_rowsFrom`: the rows stand one behind the other, from the first
       address to the end of the bytes.
    3. `stands_rowsFrom`: at its address a row finds its own bytes and what decoding
       makes of them.
    4. `listing_covers` puts this together; so no two images have one listing.
-/

namespace ByteMachine.Image

/-! ## Lines read back -/

/-- What a line of a listing shows: where bytes stand, the bytes, and what they are. -/
structure Shown where
  address : Nat
  bytes : List UInt8
  text : String
  deriving DecidableEq, Repr

/-- The number of characters that the bytes of a line and the blanks behind them take. -/
def columnWidth : Nat := 10

/-- The bytes in a column: two digits and a blank for each, up to where no digits are. -/
def bytesOfColumn : List Char → List UInt8
  | high :: low :: _ :: rest =>
    if high = ' ' then [] else UInt8.ofNat (Text.numeral 16 [high, low]) :: bytesOfColumn rest
  | _ => []

/-- The line read: between `0x` and a colon the address, two blanks behind the colon the column,
behind the column the text. -/
def Shown.ofLine (line : List Char) : Shown :=
  let rest := (line.dropWhile (· != ':')).drop 3
  { address := Text.numeral 16 ((line.takeWhile (· != ':')).drop 2)
    bytes := bytesOfColumn (rest.take columnWidth)
    text := String.ofList (rest.drop columnWidth) }

/-- What the lines under the three header lines show. -/
def shownRows (listing : String) : List Shown :=
  ((Text.lines listing.toList).drop 3).map Shown.ofLine

/-- No digit is the colon behind an address or a blank of the column. -/
theorem ne_of_mem_upperHex {n : Nat} {c : Char} (hc : c ∈ (Text.upperHex n).toList) :
    c ≠ ':' ∧ c ≠ ' ' := by
  rw [Text.upperHex, String.toList_ofList, List.mem_map] at hc
  obtain ⟨c, hc, rfl⟩ := hc
  obtain ⟨d, hd, rfl⟩ := Text.exists_digitChar_of_mem_padded (by decide) hc
  have all : ∀ d < 16, (Nat.digitChar d).toUpper ≠ ':' ∧ (Nat.digitChar d).toUpper ≠ ' ' := by
    decide +kernel
  exact all d hd

/-- The column of bytes: the digits of each and a blank behind them. -/
def columnOf (bytes : List UInt8) : List Char :=
  bytes.flatMap fun b => (Text.upperHex b.toNat).toList ++ [' ']

theorem bytesOfColumn_columnOf (bytes : List UInt8) (blanks : Nat) :
    bytesOfColumn (columnOf bytes ++ List.replicate blanks ' ') = bytes := by
  induction bytes with
  | nil =>
    rcases blanks with _ | _ | _ | blanks
    · rfl
    · rfl
    · rfl
    · rfl
  | cons b bs ih =>
    obtain ⟨high, low, digits⟩ : ∃ high low, (Text.upperHex b.toNat).toList = [high, low] :=
      List.length_eq_two.mp (by rw [String.length_toList]; exact Text.length_upperHex b.toNat_lt)
    have shown : high ≠ ' ' := (ne_of_mem_upperHex (by rw [digits]; simp)).2
    have value : UInt8.ofNat (Text.numeral 16 [high, low]) = b := by
      rw [← digits, Text.numeral_upperHex, UInt8.ofNat_toNat]
    have front : columnOf (b :: bs) ++ List.replicate blanks ' ' =
        high :: low :: ' ' :: (columnOf bs ++ List.replicate blanks ' ') := by
      rw [columnOf, List.flatMap_cons, digits]
      rfl
    rw [front, bytesOfColumn, if_neg shown, value, ih]

namespace Row

theorem toList_hexColumn_blank {row : Row} (some : row.bytes ≠ []) :
    row.hexColumn.toList ++ [' '] = columnOf row.bytes := by
  unfold hexColumn
  generalize row.bytes = bytes at some
  induction bytes with
  | nil => exact absurd rfl some
  | cons b bs ih =>
    cases bs with
    | nil => simp [columnOf]
    | cons c cs =>
      have rest := ih (List.cons_ne_nil c cs)
      rw [List.map_cons] at rest ⊢
      rw [List.map_cons, String.intercalate_cons_cons, String.toList_append, String.toList_append,
        List.append_assoc, rest]
      simp [columnOf]

/-- The column of a row with three bytes at most has its width. -/
theorem toList_paddedColumn {row : Row} (short : row.bytes.length ≤ 3) :
    row.paddedColumn.toList =
      columnOf row.bytes ++ List.replicate (columnWidth - 3 * row.bytes.length) ' ' := by
  have length := row.length_hexColumn
  rw [paddedColumn, String.toList_append, String.toList_ofList, length]
  by_cases none : row.bytes = []
  · rw [hexColumn, none]
    rfl
  · have pos : 0 < row.bytes.length := List.length_pos_iff.mpr none
    have blanks : 10 - (3 * row.bytes.length - 1) = columnWidth - 3 * row.bytes.length + 1 := by
      rw [columnWidth]
      omega
    rw [blanks, List.replicate_succ, ← toList_hexColumn_blank none, List.append_assoc]
    rfl

theorem length_paddedColumn {row : Row} (short : row.bytes.length ≤ 3) :
    row.paddedColumn.toList.length = columnWidth := by
  have length := row.length_hexColumn
  rw [paddedColumn, String.toList_append, String.toList_ofList, List.length_append,
    List.length_replicate, String.length_toList, length, columnWidth]
  omega

/-- What the line of the row shows. -/
def shown (row : Row) : Shown := ⟨row.address, row.bytes, row.description⟩

end Row

/-- A line is read as what its row has. -/
theorem Shown.ofLine_line {row : Row} (short : row.bytes.length ≤ 3) :
    Shown.ofLine row.line = row.shown := by
  have parts : row.line = ('0' :: 'x' :: (Text.upperHex row.address).toList) ++
      ':' :: ' ' :: ' ' :: (row.paddedColumn.toList ++ row.description.toList) := by
    simp [Row.line, Row.heading]
  have front : ∀ c ∈ '0' :: 'x' :: (Text.upperHex row.address).toList, (c != ':') = true := by
    intro c hc
    rw [bne_iff_ne]
    simp only [List.mem_cons] at hc
    rcases hc with rfl | rfl | hc
    · decide
    · decide
    · exact (ne_of_mem_upperHex hc).1
  have width := Row.length_paddedColumn short
  have colon : ∀ rest : List Char, (':' :: rest).takeWhile (· != ':') = [] ∧
      (':' :: rest).dropWhile (· != ':') = ':' :: rest := fun rest => ⟨rfl, rfl⟩
  have behind : (row.line.dropWhile (· != ':')).drop 3 =
      row.paddedColumn.toList ++ row.description.toList := by
    rw [parts, List.dropWhile_append_of_pos front, (colon _).2]
    rfl
  have address : (row.line.takeWhile (· != ':')).drop 2 = (Text.upperHex row.address).toList := by
    rw [parts, List.takeWhile_append_of_pos front, (colon _).1, List.append_nil]
    rfl
  rw [Shown.ofLine, behind, address, List.take_left' width, List.drop_left' width,
    Row.toList_paddedColumn short, bytesOfColumn_columnOf, Text.numeral_upperHex,
    String.ofList_toList]
  rfl

example : Shown.ofLine "0x03:  47 00     PRN R0".toList = ⟨3, [0x47, 0], "PRN R0"⟩ := by
  decide +kernel

theorem shownRows_listing (image : Image) : shownRows image.listing = image.rows.map Row.shown := by
  have header : image.headerLines.length = 3 := rfl
  rw [shownRows, lines_listing, List.drop_left' header, List.map_map]
  refine List.map_congr_left fun row hr => ?_
  exact Shown.ofLine_line (faithful_rowsFrom 0 image.bytes row hr).length_le

/-! ## Rows one behind the other -/

/-- Each row stands behind the one before it, and the last one ends where the bytes do. -/
theorem addresses_rowsFrom (address : Nat) (bytes : List UInt8) :
    (rowsFrom address bytes).map Row.address ++ [address + bytes.length] =
      ((rowsFrom address bytes).map fun row => row.bytes.length).scanl (· + ·) address := by
  fun_induction rowsFrom address bytes with
  | case1 => rfl
  | case2 address byte rest i decoded ih =>
    have size := Instruction.size_le_of_decode decoded
    have taken := Instruction.length_take_of_decode decoded
    have ends : address + i.size + ((byte :: rest).drop i.size).length =
        address + (byte :: rest).length := by
      rw [List.length_drop]
      omega
    rw [List.map_cons, List.map_cons, List.scanl_cons, List.cons_append, taken, ← ih, ends]
  | case3 address byte rest e _ ih =>
    have ends : address + 1 + rest.length = address + (byte :: rest).length := by
      rw [List.length_cons]
      omega
    rw [List.map_cons, List.map_cons, List.scanl_cons, List.cons_append, List.length_singleton, ← ih,
      ends]

/-- Whether the row has the bytes at its address, and what decoding from there on comes to. -/
structure Row.Stands (bytes : List UInt8) (row : Row) : Prop where
  inside : row.address + row.bytes.length ≤ bytes.length
  slice : row.bytes = (bytes.drop row.address).take row.bytes.length
  decoded : Instruction.decode (bytes.drop row.address) = row.content

/-- A row stands behind other bytes if they end at its address and it has the next ones. -/
theorem Row.stands_behind {row : Row} {before bytes : List UInt8} (start : before.length = row.address)
    (own : row.bytes = bytes.take row.bytes.length)
    (decoded : Instruction.decode bytes = row.content) : row.Stands (before ++ bytes) := by
  have short := congrArg List.length own
  rw [List.length_take] at short
  have ahead : (before ++ bytes).drop row.address = bytes := List.drop_left' start
  refine ⟨?_, by rw [ahead]; exact own, by rw [ahead]; exact decoded⟩
  rw [List.length_append, start]
  omega

/-- So do all rows of the bytes behind others. -/
theorem stands_rowsFrom (before bytes : List UInt8) :
    ∀ row ∈ rowsFrom before.length bytes, row.Stands (before ++ bytes) := by
  generalize start : before.length = address
  fun_induction rowsFrom address bytes generalizing before with
  | case1 => simp
  | case2 address byte rest i decoded ih =>
    have taken := Instruction.length_take_of_decode decoded
    have later := ih (before ++ (byte :: rest).take i.size) (by
      rw [List.length_append, taken, start])
    rw [List.append_assoc, List.take_append_drop] at later
    have first : Row.Stands (before ++ byte :: rest) ⟨address, (byte :: rest).take i.size, .ok i⟩ :=
      Row.stands_behind start (congrArg (List.take · (byte :: rest)) taken.symm) decoded
    exact List.forall_mem_cons.mpr ⟨first, later⟩
  | case3 address byte rest e decoded ih =>
    have later := ih (before ++ [byte]) (by rw [List.length_append, start]; rfl)
    rw [List.append_assoc] at later
    have first : Row.Stands (before ++ byte :: rest) ⟨address, [byte], .error e⟩ :=
      Row.stands_behind start rfl decoded
    exact List.forall_mem_cons.mpr ⟨first, later⟩

/-! ## The whole listing -/

/-- Whether a line shows what the image has at its address: an instruction, in all its bytes, or
a single byte with the reason why no instruction starts there. -/
structure Shown.Stands (image : Image) (line : Shown) : Prop where
  inside : line.address + line.bytes.length ≤ image.size
  slice : line.bytes = (image.bytes.drop line.address).take line.bytes.length
  content : match Instruction.decode (image.bytes.drop line.address) with
    | .ok i => line.bytes.length = i.size ∧ line.text = i.text
    | .error e => ∃ byte, line.bytes = [byte] ∧
        line.text = ".db 0x" ++ Text.upperHex byte.toNat ++ " ; ERROR: " ++ e.message

theorem Row.Stands.shown {image : Image} {row : Row} (stands : row.Stands image.bytes)
    (faithful : row.Faithful) : row.shown.Stands image := by
  refine ⟨stands.inside, stands.slice, ?_⟩
  show match Instruction.decode (image.bytes.drop row.address) with
    | .ok i => row.bytes.length = i.size ∧ row.description = i.text
    | .error e => ∃ byte, row.bytes = [byte] ∧
        row.description = ".db 0x" ++ Text.upperHex byte.toNat ++ " ; ERROR: " ++ e.message
  rw [stands.decoded]
  obtain ⟨address, bytes, content⟩ := row
  cases content with
  | ok i =>
    have own : bytes = i.encode := faithful
    refine ⟨?_, rfl⟩
    show bytes.length = i.size
    rw [own, i.length_encode]
  | error e =>
    obtain ⟨byte, own⟩ : ∃ byte, bytes = [byte] := faithful
    subst own
    refine ⟨byte, rfl, ?_⟩
    simp [Row.description]

/-- What it means that a listing covers its image. -/
structure Covered (image : Image) : Prop where
  header : (Text.lines image.listing.toList).take 3 = image.headerLines
  /-- The first address is 0, each next one is the one before and the number of its bytes, and so
  the size of the image is where the last line ends. -/
  addresses : (shownRows image.listing).map Shown.address ++ [image.size] =
    ((shownRows image.listing).map fun line => line.bytes.length).scanl (· + ·) 0
  stands : ∀ line ∈ shownRows image.listing, line.Stands image
  /-- No byte is lost, shown twice or out of order. -/
  bytes : (shownRows image.listing).flatMap Shown.bytes = image.bytes
  unique : ∀ other : Image, other.listing = image.listing → other = image

theorem flatMap_shownRows (image : Image) :
    (shownRows image.listing).flatMap Shown.bytes = image.bytes := by
  rw [shownRows_listing, List.flatMap_map]
  exact bytes_rowsFrom 0 image.bytes

/-- The listing of an image of any size covers the image. -/
theorem listing_covers (image : Image) : image.Covered := by
  have rows := shownRows_listing image
  refine ⟨?_, ?_, ?_, flatMap_shownRows image, ?_⟩
  · rw [lines_listing]
    exact List.take_left' rfl
  · have behind := addresses_rowsFrom 0 image.bytes
    rw [Nat.zero_add] at behind
    rw [rows, List.map_map, List.map_map]
    exact behind
  · intro line hl
    rw [rows] at hl
    obtain ⟨row, hr, rfl⟩ := List.mem_map.mp hl
    exact (stands_rowsFrom [] image.bytes row hr).shown (faithful_rowsFrom 0 image.bytes row hr)
  · intro other same
    have bytes := flatMap_shownRows other
    rw [same, flatMap_shownRows] at bytes
    cases image
    cases other
    exact congrArg Image.mk bytes.symm

end ByteMachine.Image
