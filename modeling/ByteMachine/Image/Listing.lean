import ByteMachine.Image
import ByteMachine.Instruction.Decoding
import ByteMachine.Text.Lines

/-
  Listings. The image is read from its first byte to its last: where an
  instruction starts, a row shows the instruction and all its bytes; a byte
  where none starts has a row to itself, with the reason. So the bytes of the
  rows, one after the other, are the image.
-/

namespace ByteMachine.Image

/-- A row of a listing. -/
structure Row where
  /-- Where the bytes stand in the image. -/
  address : Nat
  /-- The bytes of the row. -/
  bytes : List UInt8
  /-- The instruction they are, or why they are none. -/
  content : Except DecodeError Instruction

namespace Row

/-- What the row says about its bytes. -/
def description (row : Row) : String :=
  match row.content with
  | .ok i => i.text
  | .error e =>
    ".db 0x" ++ String.join (row.bytes.map fun b => Text.upperHex b.toNat) ++ " ; ERROR: "
      ++ e.message

/-- The bytes in hexadecimal, a space between two. -/
def hexColumn (row : Row) : String :=
  String.intercalate " " (row.bytes.map fun b => Text.upperHex b.toNat)

/-- The hexadecimal column filled up to ten characters. -/
def paddedColumn (row : Row) : String :=
  row.hexColumn ++ String.ofList (List.replicate (10 - row.hexColumn.length) ' ')

/-- The line of the row: address, bytes, and what they are. -/
def text (row : Row) : String :=
  "0x" ++ Text.upperHex row.address ++ ":  " ++ row.paddedColumn ++ row.description ++ "\n"

end Row

/-- The rows of the bytes, of which the first stands at the address. -/
def rowsFrom (address : Nat) (bytes : List UInt8) : List Row :=
  match bytes with
  | [] => []
  | byte :: rest =>
    match Instruction.decode (byte :: rest) with
    | .ok i =>
      ⟨address, (byte :: rest).take i.size, .ok i⟩
        :: rowsFrom (address + i.size) ((byte :: rest).drop i.size)
    | .error e => ⟨address, [byte], .error e⟩ :: rowsFrom (address + 1) rest
termination_by bytes.length
decreasing_by
  · have := i.size_pos
    simp only [List.length_drop, List.length_cons]
    omega
  · simp

/-- The rows of the image. -/
def rows (image : Image) : List Row := rowsFrom 0 image.bytes

/-- The listing: a heading of three lines, then the rows. -/
def listing (image : Image) : String :=
  "; LS-8 Disassembly\n; Size: " ++ Nat.repr image.size ++ " bytes\n\n"
    ++ String.join (image.rows.map Row.text)

/-- The number of characters in front of the description in a row with a two-digit address. -/
def descriptionColumn : Nat := 17

/-- The source text that a listing shows: of each of its rows what stands from
the description column on, as a line of its own. -/
def shownSource (listing : String) : String :=
  let rows := (Text.lines listing.toList).filter fun line => line.take 2 == ['0', 'x']
  String.ofList (rows.flatMap fun line => line.drop descriptionColumn ++ ['\n'])

end ByteMachine.Image
