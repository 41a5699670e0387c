import ByteMachine.Text.Letters

/-
  Numerals in any base up to sixteen: reading the number a string of digits
  stands for, and writing one with a fixed least width, zeros in front.
  Listings and trace rows write upper-case digits, diagnostics about a running
  machine lower-case ones.
-/

namespace ByteMachine.Text

/-- The value of a digit in either case; 0 for any other character. -/
def digitValue (c : Char) : Nat :=
  if c.isDigit then c.toNat - '0'.toNat
  else if 'a' ≤ c && c ≤ 'f' then c.toNat - 'a'.toNat + 10
  else if 'A' ≤ c && c ≤ 'F' then c.toNat - 'A'.toNat + 10
  else 0

/-- The number that the digits stand for in the base, the last digit counting least. -/
def numeral (base : Nat) (digits : List Char) : Nat :=
  digits.foldl (fun n c => n * base + digitValue c) 0

/-- Whether the character is a digit of base sixteen, in either case. -/
def isHexDigit (c : Char) : Bool :=
  c.isDigit || ('a' ≤ c && c ≤ 'f') || ('A' ≤ c && c ≤ 'F')

/-- Whether the character is a digit of base two. -/
def isBit (c : Char) : Bool := c == '0' || c == '1'

/-- The number up to `limit` that digits stand for, with or without a plus sign. -/
def number? (base limit : Nat) (isDigit : Char → Bool) (text : List Char) : Option Nat :=
  let digits := match text with
    | '+' :: rest => rest
    | _ => text
  if digits ≠ [] ∧ digits.all isDigit ∧ numeral base digits ≤ limit then
    some (numeral base digits)
  else none

/-- The text without a sign at its beginning. -/
def unsigned : List Char → List Char
  | '+' :: rest | '-' :: rest => rest
  | text => text

/-- Whether the text is the exponent of a number, or empty. -/
def isExponent : List Char → Bool
  | [] => true
  | c :: rest => (c == 'e' || c == 'E') && unsigned rest != [] && (unsigned rest).all Char.isDigit

/-- Whether the text is a number in decimal, which may have a sign, a point
and an exponent, or a word for what is no finite number. -/
def isReal (text : List Char) : Bool :=
  let text := unsigned text
  let whole := text.takeWhile Char.isDigit
  let (fraction, rest) := match text.dropWhile Char.isDigit with
    | '.' :: rest => (rest.takeWhile Char.isDigit, rest.dropWhile Char.isDigit)
    | rest => ([], rest)
  ["inf", "infinity", "nan"].any (sameLetters · (String.ofList text))
    || (whole ++ fraction != [] && isExponent rest)

/-- The digits of `n` in the base, at least `width` of them. -/
def padded (base width n : Nat) : List Char :=
  let digits := Nat.toDigits base n
  List.replicate (width - digits.length) '0' ++ digits

/-- At least two lower-case hexadecimal digits. -/
def lowerHex (n : Nat) : String := String.ofList (padded 16 2 n)

/-- At least two upper-case hexadecimal digits. -/
def upperHex (n : Nat) : String := String.ofList ((padded 16 2 n).map Char.toUpper)

/-- Eight binary digits. -/
def bits (b : UInt8) : String := String.ofList (padded 2 8 b.toNat)

theorem numeral_nil (base : Nat) : numeral base [] = 0 := rfl

theorem numeral_concat (base : Nat) (digits : List Char) (c : Char) :
    numeral base (digits ++ [c]) = numeral base digits * base + digitValue c := by
  simp [numeral]

end ByteMachine.Text
