import ValueHistory.Decimal.Double
import ValueHistory.Text.Hex
import ValueHistory.Time.Rfc3339
import ValueHistory.Toml.Basic

/-! Scalars in TOML: the four kinds of quoted text, and the unquoted numbers, truth values and
times, which are told apart by their notation.
-/

namespace ValueHistory.Toml

-----------------------------------------------------------------------------------------
-- Quoted texts
-----------------------------------------------------------------------------------------

/-- The control characters; the tab alone is welcome in texts and comments. -/
def isControl (c : Char) : Bool :=
  c.toNat < 32 || c.toNat = 127

/-- Whether a character may stand as it is between quotes on one line. -/
def isPlain (c : Char) : Bool :=
  c = '\t' || !isControl c

/-- Removes a line end at the beginning of a text. -/
def lineEnd? : List Char → Option (List Char)
  | '\n' :: rest => some rest
  | '\r' :: '\n' :: rest => some rest
  | _ => none

/-- The character of a code written in hexadecimal digits. -/
def charOfCode? (digits : List Char) : Option Char :=
  (Hex.number? digits).bind fun code =>
    if code.isValidChar then some (Char.ofNat code) else none

/-- Reads an escape after its backslash. -/
def readEscape? : List Char → Option (Char × List Char)
  | 'b' :: rest => some ('\x08', rest)
  | 't' :: rest => some ('\t', rest)
  | 'n' :: rest => some ('\n', rest)
  | 'f' :: rest => some ('\x0c', rest)
  | 'r' :: rest => some ('\r', rest)
  | 'e' :: rest => some ('\x1b', rest)
  | '\x22' :: rest => some ('\x22', rest)
  | '\x5c' :: rest => some ('\x5c', rest)
  | 'x' :: a :: b :: rest => (charOfCode? [a, b]).map (·, rest)
  | 'u' :: a :: b :: c :: d :: rest => (charOfCode? [a, b, c, d]).map (·, rest)
  | 'U' :: a :: b :: c :: d :: e :: f :: g :: h :: rest =>
    (charOfCode? [a, b, c, d, e, f, g, h]).map (·, rest)
  | _ => none

/-- Reads a text on one line up to its closing quote; only one in double quotes has escapes. The
fuel is the length of the text.
-/
def readLine? (quote : Char) (escapes : Bool) : Nat → List Char → Option (List Char × List Char)
  | 0, _ => none
  | _, [] => none
  | fuel + 1, c :: rest =>
    if c = quote then some ([], rest)
    else if escapes && c = '\x5c' then do
      let (c, rest) ← readEscape? rest
      let (text, rest) ← readLine? quote escapes fuel rest
      some (c :: text, rest)
    else if isPlain c then do
      let (text, rest) ← readLine? quote escapes fuel rest
      some (c :: text, rest)
    else none

/-- Skips blanks and line ends. -/
def skipLines : Nat → List Char → List Char
  | 0, text => text
  | fuel + 1, text =>
    match text with
    | ' ' :: rest => skipLines fuel rest
    | '\t' :: rest => skipLines fuel rest
    | text =>
      match lineEnd? text with
      | some rest => skipLines fuel rest
      | none => text

/-- Skips what a backslash at the end of a line takes away: blanks, the line end, and all blanks
and line ends after it.
-/
def continued? (text : List Char) : Option (List Char) :=
  (lineEnd? (text.dropWhile fun c => c = ' ' || c = '\t')).map fun rest =>
    skipLines rest.length rest

/-- Splits off quotes of one kind at the beginning of a text. -/
def quotes (quote : Char) (text : List Char) : List Char × List Char :=
  (text.takeWhile (· = quote), text.dropWhile (· = quote))

/-- Splits off what may stand as it is in a text over several lines: a character or a line end. -/
def readPlain? : List Char → Option (List Char × List Char)
  | '\n' :: rest => some (['\n'], rest)
  | '\r' :: '\n' :: rest => some (['\r', '\n'], rest)
  | c :: rest => if isPlain c then some ([c], rest) else none
  | [] => none

/-- Reads a text over several lines up to its three closing quotes. One or two quotes more belong
to the text, and so do the line ends, as they are. The fuel is more than the length of the text.
-/
def readLines? (quote : Char) (escapes : Bool) : Nat → List Char → Option (List Char × List Char)
  | 0, _ => none
  | fuel + 1, text =>
    match quotes quote text with
    | ([], rest) =>
      if escapes && rest.head? = some '\x5c' then
        match continued? rest.tail with
        | some rest => readLines? quote escapes fuel rest
        | none =>
          (readEscape? rest.tail).bind fun (c, rest) =>
            (readLines? quote escapes fuel rest).map fun (text, rest) => (c :: text, rest)
      else
        (readPlain? rest).bind fun (plain, rest) =>
          (readLines? quote escapes fuel rest).map fun (text, rest) => (plain ++ text, rest)
    | (row, rest) =>
      if row.length < 3 then
        (readLines? quote escapes fuel rest).map fun (text, rest) => (row ++ text, rest)
      else if row.length < 6 then some (row.drop 3, rest)
      else none

/-- Reads a quoted text of any of the four kinds. -/
def readQuoted? : List Char → Option (List Char × List Char)
  | quote :: rest =>
    let escapes := quote = '\x22'
    if quote = '\x22' || quote = '\x27' then
      match rest with
      | second :: third :: body =>
        if second = quote && third = quote then
          let body := (lineEnd? body).getD body
          readLines? quote escapes (body.length + 1) body
        else readLine? quote escapes rest.length rest
      | _ => readLine? quote escapes rest.length rest
    else none
  | [] => none

-----------------------------------------------------------------------------------------
-- The form of numbers
-----------------------------------------------------------------------------------------

/-- Splits off the sign of a number. -/
def splitSign : List Char → Option Char × List Char
  | '-' :: rest => (some '-', rest)
  | '+' :: rest => (some '+', rest)
  | text => (none, text)

/-- Whether every underscore stands before a digit and after one. It is told whether an underscore
may come first.
-/
def underscoresFit (isDigit : Char → Bool) : Bool → List Char → Bool
  | _, [] => true
  | allowed, '_' :: rest =>
    allowed && (rest.head?.map isDigit).getD false && underscoresFit isDigit false rest
  | _, c :: rest => underscoresFit isDigit (isDigit c) rest

/-- Splits off digits and underscores, and counts the digits. -/
def spanDigits (text : List Char) : Nat × List Char :=
  let isPart (c : Char) : Bool := c.isDigit || c = '_'
  ((text.takeWhile isPart).countP Char.isDigit, text.dropWhile isPart)

/-- Skips digits that must be there after a mark, if the mark is there. -/
def skipMarked? (isMark : Char → Bool) (signed : Bool) : List Char → Option (List Char)
  | c :: text =>
    if isMark c then
      let (count, rest) := spanDigits (if signed then (splitSign text).2 else text)
      if count = 0 then none else some rest
    else some (c :: text)
  | [] => some []

/-- The mark of an exponent. -/
def isExponentMark (c : Char) : Bool :=
  c = 'e' || c = 'E'

/-- Whether a text without its sign has the form of a number with a fraction or an exponent. -/
def isRealForm (text : List Char) : Bool :=
  let (count, rest) := spanDigits text
  let rest? := (skipMarked? (· = '.') false rest).bind (skipMarked? isExponentMark true)
  0 < count && (count = 1 || text.head? ≠ some '0') && rest? = some []

/-- Whether a text without its sign has the form of a decimal whole number, which begins with a
zero only if it is zero. What follows its first underscore is not looked at: whether the number has
a value is not told by its form.
-/
def isWholeForm (text : List Char) : Bool :=
  let rest := text.dropWhile Char.isDigit
  text = ['0']
    || (!text.isEmpty && (rest.isEmpty || rest.head? = some '_') && text.head? ≠ some '0')

-----------------------------------------------------------------------------------------
-- The value of numbers
-----------------------------------------------------------------------------------------

/-- The number of digits to a base. -/
def numberOfDigits (base : Nat) (digits : List Char) : Nat :=
  digits.foldl (fun total c => base * total + (Hex.value? c).getD 0) 0

/-- The least 128-bit integer with a sign. -/
def minInteger128 : Int := -170141183460469231731687303715884105728

/-- The greatest 128-bit integer without a sign. -/
def maxUnsigned128 : Int := 340282366920938463463374607431768211455

/-- Whether a character is a digit to a base of sixteen at most. -/
def isDigitOf (base : Nat) (c : Char) : Bool :=
  (Hex.value? c).any (· < base)

/-- The value of a whole number to a base, written in its digits alone; there is none without
digits, with other digits, or beyond 128 bits with or without a sign.
-/
def integerOf (base : Nat) (negative : Bool) (digits : List Char) : Toml :=
  let size : Int := numberOfDigits base digits
  let value := if negative then -size else size
  if !digits.isEmpty && digits.all (isDigitOf base) && minInteger128 ≤ value
      && value ≤ maxUnsigned128 then
    .integer value
  else .unreadable

/-- The value of a number with a fraction or an exponent, written without underscores; there is
none beyond the range of doubles.
-/
def realOf (negative : Bool) (text : List Char) : Toml :=
  let mantissa := text.takeWhile fun c => !isExponentMark c
  let whole := mantissa.takeWhile (· ≠ '.')
  let fraction := (mantissa.dropWhile (· ≠ '.')).drop 1
  let (sign, power) := splitSign ((text.dropWhile fun c => !isExponentMark c).drop 1)
  let size : Int := Decimal.value power
  let exponent := if sign = some '-' then -size else size
  if (Double.ofDecimal? negative (Decimal.value (whole ++ fraction))
      (exponent - fraction.length)).isSome then
    .real
  else .unreadable

/-- Reads a whole number to a base after the mark of the base. -/
def based? (base : Nat) (text : List Char) : Option Toml :=
  if text.all (fun c => isDigitOf base c || c = '_') && underscoresFit (isDigitOf base) false text
  then some (integerOf base false (text.filter (· ≠ '_')))
  else none

/-- Reads a number. A base is told without a sign, and an underscore may follow a sign. -/
def number? : List Char → Option Toml
  | '0' :: 'x' :: text => based? 16 text
  | '0' :: 'o' :: text => based? 8 text
  | '0' :: 'b' :: text => based? 2 text
  | text =>
    let (sign, body) := splitSign text
    let plain := body.filter (· ≠ '_')
    if body = "inf".toList || body = "nan".toList then some .real
    else if body.any (fun c => isExponentMark c || c = '.') then
      if isRealForm body && underscoresFit Char.isDigit sign.isSome body then
        some (realOf (sign = some '-') plain)
      else none
    else if isWholeForm body && underscoresFit (isDigitOf 16) sign.isSome body then
      some (integerOf 10 (sign = some '-') plain)
    else none

-----------------------------------------------------------------------------------------
-- Times
-----------------------------------------------------------------------------------------

/-- Skips a time of the day; seconds and their fraction may be left out. -/
def skipTime? (text : List Char) : Option (List Char) := do
  let (hour, text) ← Decimal.fixed? 2 text
  let text ← Rfc3339.literal? ':' text
  let (minute, text) ← Decimal.fixed? 2 text
  if 23 < hour || 59 < minute then none
  match text with
  | ':' :: text =>
    let (second, text) ← Decimal.fixed? 2 text
    if 60 < second then none
    (Rfc3339.fraction? text).map (·.2)
  | text => some text

/-- Whether a text is nothing, or an offset from universal time of less than a day. -/
def isOffset : List Char → Bool
  | [] => true
  | [c] => c = 'Z' || c = 'z'
  | sign :: text =>
    let seconds? : Option (List Char) := do
      let (hours, text) ← Decimal.fixed? 2 text
      let text ← Rfc3339.literal? ':' text
      let (minutes, text) ← Decimal.fixed? 2 text
      if hours ≤ 23 && minutes ≤ 59 then some text else none
    (sign = '+' || sign = '-') && seconds? = some []

/-- Whether a text is a date, a time of the day, or both. -/
def isTime (text : List Char) : Bool :=
  match Rfc3339.date? text with
  | some (_, []) => true
  | some (_, separator :: text) =>
    (separator = 'T' || separator = 't' || separator = ' ')
      && ((skipTime? text).map isOffset).getD false
  | none => skipTime? text = some []

-----------------------------------------------------------------------------------------
-- Unquoted values are told apart by their notation
-----------------------------------------------------------------------------------------

/-- The value of an unquoted text. -/
def unquoted? (text : List Char) : Option Toml :=
  if text = "true".toList then some (.truth true)
  else if text = "false".toList then some (.truth false)
  else match number? text with
    | some value => some value
    | none => if isTime text then some .time else none

/-- Whether a character belongs to an unquoted value: all do but blanks, line ends, the beginning
of a comment and the marks between keys, values and items.
-/
def isUnquoted (c : Char) : Bool :=
  !" \t\r\n#=,[]\x7b\x7d".toList.contains c

/-- Reads an unquoted value. A blank after a date belongs to the value if a digit follows it. -/
def readUnquoted? (text : List Char) : Option (Toml × List Char) :=
  let token := text.takeWhile isUnquoted
  let rest := text.dropWhile isUnquoted
  let isDate := (Rfc3339.date? token).map (·.2) = some []
  match rest with
  | ' ' :: c :: later =>
    if isDate && c.isDigit then
      let time := (c :: later).takeWhile isUnquoted
      (unquoted? (token ++ ' ' :: time)).map (·, (c :: later).dropWhile isUnquoted)
    else (unquoted? token).map (·, rest)
  | _ => (unquoted? token).map (·, rest)

end ValueHistory.Toml
