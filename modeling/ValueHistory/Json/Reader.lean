import ValueHistory.Json.Document
import ValueHistory.Text.Decimal
import ValueHistory.Text.Hex

/-! Reading JSON documents. The grammar is the strict one: four kinds of blanks, no leading zeros,
no trailing commas, no raw controls inside quotes. Nesting is not limited here.
-/

namespace ValueHistory.Json

/-- The blanks between the tokens of a document. -/
def isBlank (c : Char) : Bool :=
  c = ' ' || c = '\t' || c = '\n' || c = '\r'

/-- A text without its leading blanks. -/
def skipBlanks (text : List Char) : List Char :=
  text.dropWhile isBlank

-----------------------------------------------------------------------------------------
-- Quoted texts are read as pieces, and pairs of units are joined afterwards
-----------------------------------------------------------------------------------------

/-- What stands between quotes: characters, and units of two bytes written by their number. -/
inductive Piece where
  | char (c : Char)
  | unit (code : Nat)

/-- The character that a unit denotes, unless it is one half of a pair. -/
def charOfUnit? (code : Nat) : Option Char :=
  if 0xD800 ≤ code && code < 0xE000 then none else some (Char.ofNat code)

/-- The character that two units denote as a pair. -/
def charOfPair? (high low : Nat) : Option Char :=
  if 0xD800 ≤ high && high < 0xDC00 && 0xDC00 ≤ low && low < 0xE000 then
    some (Char.ofNat (0x10000 + (high - 0xD800) * 1024 + (low - 0xDC00)))
  else none

/-- The characters that the pieces spell, if every half of a pair has its other half. -/
def joinPieces : List Piece → Option (List Char)
  | [] => some []
  | .char c :: rest => (joinPieces rest).map (c :: ·)
  | .unit high :: .unit low :: rest =>
    match charOfPair? high low with
    | some c => (joinPieces rest).map (c :: ·)
    | none =>
      match charOfUnit? high with
      | some c => (joinPieces (.unit low :: rest)).map (c :: ·)
      | none => none
  | .unit code :: rest => (charOfUnit? code).bind fun c => (joinPieces rest).map (c :: ·)
termination_by structural pieces => pieces

/-- The character that a short escape stands for. -/
def shortEscape? (c : Char) : Option Char :=
  if c = '\x22' || c = '\x5c' || c = '/' then some c
  else if c = 'b' then some '\x08'
  else if c = 'f' then some '\x0c'
  else if c = 'n' then some '\n'
  else if c = 'r' then some '\r'
  else if c = 't' then some '\t'
  else none

/-- Reads up to the closing quote and returns the pieces before it and the text after it. -/
def readPieces? : List Char → Option (List Piece × List Char)
  | [] => none
  | '\x22' :: rest => some ([], rest)
  | '\x5c' :: 'u' :: a :: b :: c :: d :: rest => do
    let code ← Hex.number? [a, b, c, d]
    let (pieces, rest) ← readPieces? rest
    some (.unit code :: pieces, rest)
  | '\x5c' :: c :: rest => do
    let c ← shortEscape? c
    let (pieces, rest) ← readPieces? rest
    some (.char c :: pieces, rest)
  | c :: rest =>
    if c = '\x5c' || c.toNat < 32 then none
    else do
      let (pieces, rest) ← readPieces? rest
      some (.char c :: pieces, rest)

/-- Reads a text after its opening quote. -/
def readText? (text : List Char) : Option (Option String × List Char) :=
  (readPieces? text).map fun (pieces, rest) => ((joinPieces pieces).map String.ofList, rest)

-----------------------------------------------------------------------------------------
-- Numbers keep their digits
-----------------------------------------------------------------------------------------

/-- Reads an optional fraction as its digits. -/
def readFraction? : List Char → Option (List Char × List Char)
  | '.' :: text =>
    match Decimal.span text with
    | ([], _) => none
    | (row, rest) => some (row, rest)
  | text => some ([], text)

/-- Reads the digits of an exponent after its sign. -/
def readExponentDigits? (negative : Bool) (text : List Char) : Option (Option Int × List Char) :=
  match Decimal.span text with
  | ([], _) => none
  | (row, rest) =>
    let magnitude : Int := Decimal.value row
    some (some (if negative then -magnitude else magnitude), rest)

/-- Reads an optional exponent. -/
def readExponent? : List Char → Option (Option Int × List Char)
  | mark :: text =>
    if mark = 'e' || mark = 'E' then
      match text with
      | '-' :: text => readExponentDigits? true text
      | '+' :: text => readExponentDigits? false text
      | text => readExponentDigits? false text
    else some (none, mark :: text)
  | [] => some (none, [])

/-- Reads a number after its sign. A zero ends the whole part. -/
def readUnsigned? (negative : Bool) (text : List Char) : Option (Numeral × List Char) := do
  let (row, text) := Decimal.span text
  if row.isEmpty || (row.length ≠ 1 && row.head? = some '0') then none
  let (fraction, text) ← readFraction? text
  let (exponent, text) ← readExponent? text
  some ({ negative, row, fraction, exponent }, text)

/-- Reads a number. -/
def readNumber? : List Char → Option (Numeral × List Char)
  | '-' :: text => readUnsigned? true text
  | text => readUnsigned? false text

-----------------------------------------------------------------------------------------
-- Values, items and members bound each other by fuel
-----------------------------------------------------------------------------------------

mutual

/-- Reads a value that begins without blanks. The fuel bounds the number of steps. -/
def readValue? : Nat → List Char → Option (Document × List Char)
  | 0, _ => none
  | fuel + 1, text =>
    match text with
    | 'n' :: 'u' :: 'l' :: 'l' :: rest => some (.null, rest)
    | 't' :: 'r' :: 'u' :: 'e' :: rest => some (.bool true, rest)
    | 'f' :: 'a' :: 'l' :: 's' :: 'e' :: rest => some (.bool false, rest)
    | '\x22' :: rest => (readText? rest).map fun (value, rest) => (.string value, rest)
    | '[' :: rest =>
      match skipBlanks rest with
      | ']' :: rest => some (.array [], rest)
      | rest => (readItems? fuel rest).map fun (items, rest) => (.array items, rest)
    | '\x7b' :: rest =>
      match skipBlanks rest with
      | '\x7d' :: rest => some (.object [], rest)
      | rest => (readMembers? fuel rest).map fun (members, rest) => (.object members, rest)
    | text => (readNumber? text).map fun (value, rest) => (.number value, rest)

/-- Reads one or more items up to the closing bracket. -/
def readItems? : Nat → List Char → Option (List Document × List Char)
  | 0, _ => none
  | fuel + 1, text => do
    let (item, text) ← readValue? fuel text
    match skipBlanks text with
    | ']' :: rest => some ([item], rest)
    | ',' :: rest =>
      let (items, rest) ← readItems? fuel (skipBlanks rest)
      some (item :: items, rest)
    | _ => none

/-- Reads one or more members up to the closing brace. -/
def readMembers? : Nat → List Char → Option (List (Option String × Document) × List Char)
  | 0, _ => none
  | fuel + 1, text => do
    let text ← match text with
      | '\x22' :: rest => some rest
      | _ => none
    let (key, text) ← readText? text
    let text ← match skipBlanks text with
      | ':' :: rest => some rest
      | _ => none
    let (value, text) ← readValue? fuel (skipBlanks text)
    match skipBlanks text with
    | '\x7d' :: rest => some ([(key, value)], rest)
    | ',' :: rest =>
      let (members, rest) ← readMembers? fuel (skipBlanks rest)
      some ((key, value) :: members, rest)
    | _ => none

end

namespace Document

/-- Reads the document that a text begins with, and returns what follows it. Every step takes at
least one character, two steps in a row at most excepted, so the fuel is enough.
-/
def readFirst? (text : List Char) : Option (Document × List Char) :=
  readValue? (2 * text.length + 2) (skipBlanks text)

/-- Reads a text that is one document with blanks around it. -/
def read? (text : List Char) : Option Document :=
  match readFirst? text with
  | some (document, rest) => if (skipBlanks rest).isEmpty then some document else none
  | none => none

end Document

end ValueHistory.Json
