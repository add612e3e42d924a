import ValueHistory.Text.Invisible
import ValueHistory.Text.Hex

/-! Texts inside double quotes, as messages show them. The quote, the backslash, the common
controls and every character that cannot be shown on its own are written as escapes.
-/

namespace ValueHistory.Text

/-- The written form of one character between quotes. -/
def quoteChar (c : Char) : List Char :=
  if c = '\x00' then "\\0".toList
  else if c = '\t' then "\\t".toList
  else if c = '\r' then "\\r".toList
  else if c = '\n' then "\\n".toList
  else if c = '\x22' || c = '\x5c' then ['\x5c', c]
  else if isInvisible c then "\\u\x7b".toList ++ Hex.ofNat c.toNat ++ ['\x7d']
  else [c]

/-- A text in double quotes. -/
def quote (text : String) : String :=
  String.ofList ('\x22' :: text.toList.flatMap quoteChar ++ ['\x22'])

end ValueHistory.Text
