/-! Decimal notation of whole numbers: writing, zero padding, and the readers of unsigned,
fixed-width and signed 64-bit notation. Digits are the ASCII digits only.
-/

namespace ValueHistory.Decimal

-----------------------------------------------------------------------------------------
-- Writing
-----------------------------------------------------------------------------------------

/-- The decimal digits of a number without leading zeros. -/
def digits (value : Nat) : List Char :=
  Nat.toDigits 10 value

/-- The decimal digits filled up with zeros on the left to at least the width. -/
def padded (width value : Nat) : List Char :=
  List.replicate (width - (digits value).length) '0' ++ digits value

/-- The decimal notation of an integer, with a minus sign before a negative one. -/
def signed (value : Int) : List Char :=
  if value < 0 then '-' :: digits value.natAbs else digits value.natAbs

-----------------------------------------------------------------------------------------
-- Reading
-----------------------------------------------------------------------------------------

/-- The value of a digit. -/
def digitValue (c : Char) : Nat :=
  c.toNat - 48

/-- The number that a row of digits denotes. -/
def value (row : List Char) : Nat :=
  row.foldl (fun total c => 10 * total + digitValue c) 0

/-- Splits the digits that a text begins with from the rest. -/
def span (text : List Char) : List Char × List Char :=
  (text.takeWhile Char.isDigit, text.dropWhile Char.isDigit)

/-- Reads a text that is a non-empty row of digits. -/
def natural? (text : List Char) : Option Nat :=
  if text.isEmpty || !text.all Char.isDigit then none else some (value text)

/-- Reads exactly `width` digits from the beginning of a text and returns the rest with them. -/
def fixed? (width : Nat) (text : List Char) : Option (Nat × List Char) :=
  if (text.take width).length = width then
    (natural? (text.take width)).map (·, text.drop width)
  else none

-----------------------------------------------------------------------------------------
-- Integers of 64 bits
-----------------------------------------------------------------------------------------

/-- The least and the greatest 64-bit integer. -/
def minInteger64 : Int := -9223372036854775808

@[inherit_doc minInteger64]
def maxInteger64 : Int := 9223372036854775807

/-- The greatest 64-bit integer without a sign. -/
def maxUnsigned64 : Int := 18446744073709551615

/-- Whether an integer fits 64 bits without a sign. -/
def fitsUnsigned64 (value : Int) : Bool :=
  0 ≤ value && value ≤ maxUnsigned64

/-- Whether an integer fits 64 bits with a sign. -/
def fitsInteger64 (value : Int) : Bool :=
  minInteger64 ≤ value && value ≤ maxInteger64

/-- Reads a 64-bit integer: an optional single sign, then one or more digits, of any length as
long as the value is in range.
-/
def integer64? (text : List Char) : Option Int :=
  let inRange (value : Int) := if fitsInteger64 value then some value else none
  match text with
  | '-' :: rest => (natural? rest).bind fun n => inRange (-(n : Int))
  | '+' :: rest => (natural? rest).bind fun n => inRange n
  | rest => (natural? rest).bind fun n => inRange n

end ValueHistory.Decimal
