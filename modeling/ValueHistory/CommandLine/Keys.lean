import ValueHistory.Text.Hex

/-! Keys of cursors: 32 hexadecimal digits drawn from a seed and the number of the key. -/

namespace ValueHistory

/-- Draws a row of numbers below sixteen. -/
def drawDigits : Nat → StdGen → List Nat
  | 0, _ => []
  | count + 1, generator =>
    let (value, generator) := randNat generator 0 15
    value :: drawDigits count generator

/-- The key of a number, for a seed that nobody knows. -/
def cursorKey (seed number : Nat) : String :=
  String.ofList ((drawDigits 32 (mkStdGen (seed + number))).map Hex.digit)

end ValueHistory
