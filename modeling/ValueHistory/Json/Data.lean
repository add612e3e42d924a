import ValueHistory.Json.Document
import ValueHistory.Json.Reader
import ValueHistory.OrderedMap.Basic
import ValueHistory.Text.Bytes

/-! Free data out of documents. The whole of a document is judged here: every text spells
characters, every number is finite, and values nest only so deep. Of a repeated key the last
value stays.
-/

namespace ValueHistory.Json

/-- Reads digits after a number as long as it fits 64 bits, and returns those that are left. -/
def gather (total : Nat) : List Char → Nat × List Char
  | [] => (total, [])
  | c :: row =>
    let next := 10 * total + Decimal.digitValue c
    if Decimal.maxUnsigned64 < next then (total, c :: row) else gather next row

/-- The greatest exponent that is added to the number of places, in 32 bits with a sign. -/
def maxExponent : Nat := 2147483647

/-- The double that a numeral denotes, if it is finite. Its significand are the digits that fit 64
bits; those of the whole part that are left count as zeros, and those of the fraction not at all. An
exponent of more than 32 bits makes a number too great, or nothing.
-/
def Numeral.toDouble? (numeral : Numeral) : Option Double :=
  let (total, left) := gather 0 numeral.row
  let (significand, ignored) := gather total numeral.fraction
  let places : Int := (left.length : Int) - (numeral.fraction.length - ignored.length)
  let exponent := numeral.exponent.getD 0
  if maxExponent < exponent.natAbs then
    if significand ≠ 0 && 0 < exponent then none else some (.zero numeral.negative)
  else Double.ofParts? numeral.negative significand (places + exponent)

/-- The number that a numeral denotes: an integer where it has no fraction and no exponent and fits
64 bits with or without a sign, else a double. A negative zero is a double.
-/
def Numeral.toNumber? (numeral : Numeral) : Option Number :=
  let magnitude := Decimal.value numeral.row
  let value : Int := if numeral.negative then -(magnitude : Int) else magnitude
  let whole := numeral.fraction.isEmpty && numeral.exponent.isNone
  let negativeZero := numeral.negative && magnitude = 0
  let fits := Decimal.fitsInteger64 value || Decimal.fitsUnsigned64 value
  if whole && !negativeZero && fits then some (.integer value)
  else numeral.toDouble?.map .real

/-- The most arrays and objects that may lie around a value. -/
def maxDepth : Nat := 127

mutual

/-- The value of a document in which at most `room` arrays and objects enclose one another. -/
def Document.toJson? (room : Nat) : Document → Option Json
  | .null => some .null
  | .bool value => some (.bool value)
  | .number value => value.toNumber?.map .number
  | .string value => value.map .string
  | .array items =>
    match room with
    | 0 => none
    | room + 1 => (itemsToJson? room items).map .array
  | .object members =>
    match room with
    | 0 => none
    | room + 1 =>
      (membersToJson? room members).map fun members => .object (OrderedMap.ofList members).entries
termination_by structural document => document

/-- The values of the items of an array. -/
def itemsToJson? (room : Nat) : List Document → Option (List Json)
  | [] => some []
  | item :: rest => do
    let item ← item.toJson? room
    let rest ← itemsToJson? room rest
    some (item :: rest)
termination_by structural items => items

/-- The values of the members of an object, in the order of the document. -/
def membersToJson? (room : Nat) : List (Option String × Document) → Option (List (String × Json))
  | [] => some []
  | (key, value) :: rest => do
    let key ← key
    let value ← value.toJson? room
    let rest ← membersToJson? room rest
    some ((key, value) :: rest)
termination_by structural members => members

end

/-- Reads a text that is one value. -/
def read? (text : List Char) : Option Json :=
  (Document.read? text).bind (·.toJson? maxDepth)

/-- Reads bytes that are one value in UTF-8. -/
def ofBytes? (bytes : Bytes) : Option Json :=
  bytes.toString?.bind fun text => read? text.toList

end ValueHistory.Json
