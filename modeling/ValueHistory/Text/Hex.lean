import ValueHistory.Text.Bytes

/-! Byte strings as lower-case hexadecimal text, two digits a byte. -/

namespace ValueHistory.Hex

/-- The lower-case digit of a value below sixteen. -/
def digit (value : Nat) : Char :=
  if value < 10 then Char.ofNat (48 + value) else Char.ofNat (87 + value)

/-- The value of a hexadecimal digit in either case. -/
def value? (c : Char) : Option Nat :=
  let code := c.toNat
  if 48 ≤ code && code ≤ 57 then some (code - 48)
  else if 97 ≤ code && code ≤ 102 then some (code - 87)
  else if 65 ≤ code && code ≤ 70 then some (code - 55)
  else none

/-- The number written by hexadecimal digits, most significant first. -/
def number? (digits : List Char) : Option Nat :=
  digits.foldlM (fun total c => (value? c).map (16 * total + ·)) 0

/-- The hexadecimal text of a number without leading zeros. -/
def ofNat (value : Nat) : List Char :=
  Nat.toDigits 16 value

/-- Two digits for every byte. -/
def encode : Bytes → List Char
  | [] => []
  | byte :: rest => digit (byte.toNat / 16) :: digit (byte.toNat % 16) :: encode rest

/-- Reads pairs of digits; an odd digit or another character is refused. -/
def decode? : List Char → Option Bytes
  | [] => some []
  | [_] => none
  | high :: low :: rest => do
    let high ← value? high
    let low ← value? low
    let bytes ← decode? rest
    pure (UInt8.ofNat (16 * high + low) :: bytes)

end ValueHistory.Hex
