import ValueHistory.Json.Basic
import ValueHistory.Text.Bytes
import ValueHistory.Text.Decimal
import ValueHistory.Text.Hex

/-! The compact notation of JSON values: no blanks, no escapes beyond the quote, the backslash and
the controls, and for a double the fewest digits that read back.
-/

namespace ValueHistory.Json

-----------------------------------------------------------------------------------------
-- Numbers
-----------------------------------------------------------------------------------------

/-- The digits of a double at their place around the point. The point stands before the digit
number `point`, which may lie outside the digits; a whole double keeps a zero after the point.
-/
def positional (digits : List Char) (point : Int) : List Char :=
  if point ≤ 0 then '0' :: '.' :: List.replicate point.natAbs '0' ++ digits
  else
    let whole := digits.take point.natAbs
    let fraction := digits.drop point.natAbs
    whole ++ List.replicate (point.natAbs - digits.length) '0'
      ++ '.' :: (if fraction.isEmpty then ['0'] else fraction)

/-- The digits of a double with the point after the first one, and the exponent with its sign. -/
def scientific (digits : List Char) (exponent : Int) : List Char :=
  digits.take 1 ++ (if digits.length ≤ 1 then [] else '.' :: digits.drop 1)
    ++ 'e' :: (if exponent < 0 then '-' else '+') :: Decimal.digits exponent.natAbs

/-- The notation of a double: positional for the decimal exponents -5 to 15, scientific beyond. -/
def renderDouble (value : Double) : List Char :=
  let (significand, exponent) := value.shortest
  let digits := Decimal.digits significand
  let leading := (digits.length : Int) - 1 + exponent
  (if value.negative then ['-'] else [])
    ++ if -5 ≤ leading && leading ≤ 15 then positional digits (leading + 1)
      else scientific digits leading

/-- The notation of a number. -/
def renderNumber : Number → List Char
  | .integer value => Decimal.signed value
  | .real value => renderDouble value

-----------------------------------------------------------------------------------------
-- Texts
-----------------------------------------------------------------------------------------

/-- One character inside a quoted text. -/
def renderChar (c : Char) : List Char :=
  if c = '\x22' then ['\x5c', '\x22']
  else if c = '\x5c' then ['\x5c', '\x5c']
  else if c = '\x08' then ['\x5c', 'b']
  else if c = '\x09' then ['\x5c', 't']
  else if c = '\x0a' then ['\x5c', 'n']
  else if c = '\x0c' then ['\x5c', 'f']
  else if c = '\x0d' then ['\x5c', 'r']
  else if c.toNat < 32 then
    ['\x5c', 'u', '0', '0', Hex.digit (c.toNat / 16), Hex.digit (c.toNat % 16)]
  else [c]

/-- A quoted text. -/
def renderText (text : String) : List Char :=
  '\x22' :: text.toList.flatMap renderChar ++ ['\x22']

-----------------------------------------------------------------------------------------
-- Values
-----------------------------------------------------------------------------------------

mutual

/-- The notation of a value. -/
def render : Json → List Char
  | null => "null".toList
  | bool true => "true".toList
  | bool false => "false".toList
  | number value => renderNumber value
  | string value => renderText value
  | array items => '[' :: renderItems items
  | object members => '\x7b' :: renderMembers members
termination_by structural value => value

/-- The items of an array up to its closing bracket. -/
def renderItems : List Json → List Char
  | [] => [']']
  | item :: rest => render item ++ renderMoreItems rest
termination_by structural items => items

/-- The items after the first one, each with its comma. -/
def renderMoreItems : List Json → List Char
  | [] => [']']
  | item :: rest => ',' :: render item ++ renderMoreItems rest
termination_by structural items => items

/-- The members of an object up to its closing brace. -/
def renderMembers : List (String × Json) → List Char
  | [] => ['\x7d']
  | (key, value) :: rest => renderText key ++ ':' :: render value ++ renderMoreMembers rest
termination_by structural members => members

/-- The members after the first one, each with its comma. -/
def renderMoreMembers : List (String × Json) → List Char
  | [] => ['\x7d']
  | (key, value) :: rest =>
    ',' :: renderText key ++ ':' :: render value ++ renderMoreMembers rest
termination_by structural members => members

end

/-- The compact notation of a value as a text. -/
def compact (value : Json) : String :=
  String.ofList value.render

/-- The compact notation of a value as bytes. -/
def toBytes (value : Json) : Bytes :=
  Bytes.ofString value.compact

end ValueHistory.Json
