import ValueHistory.Text.Decimal
import ValueHistory.Text.Hex
import ValueHistory.Toml.Scalar

/-! Writing values in TOML as settings files have them: texts in the plainest quotes that hold
them, and lists of two items or more with a line for each.
-/

namespace ValueHistory.Toml

/-- The kinds of quoted text. -/
inductive Style where
  | basic
  | literal
  | basicLines
  | literalLines
deriving DecidableEq, Repr

/-- The length of the longest row of a character in a text. -/
def longestRow (c : Char) (text : List Char) : Nat :=
  (text.foldl
    (fun (longest, current) next =>
      if next = c then (max longest (current + 1), current + 1) else (longest, 0))
    (0, 0)).1

/-- The kind of quotes for a text: without escapes where that can be, on one line where that can
be, and double quotes before single ones.
-/
def style (text : List Char) : Style :=
  let hasControl := text.any fun c => isControl c && c ≠ '\t' && c ≠ '\n'
  let hasLine := text.contains '\n'
  if !hasControl && !hasLine && !text.contains '\x5c' && !text.contains '\x22' then .basic
  else if !hasControl && !hasLine && !text.contains '\x27' then .literal
  else if !hasControl && !text.contains '\x5c' && longestRow '\x22' text < 3 then .basicLines
  else if !hasControl && longestRow '\x27' text < 3 then .literalLines
  else if hasLine then .basicLines
  else .basic

/-- A character of a text in double quotes that has to be escaped. -/
def escapeChar (c : Char) : List Char :=
  if c = '\x08' then ['\x5c', 'b']
  else if c = '\t' then ['\x5c', 't']
  else if c = '\n' then ['\x5c', 'n']
  else if c = '\x0c' then ['\x5c', 'f']
  else if c = '\r' then ['\x5c', 'r']
  else if c = '\x22' || c = '\x5c' then ['\x5c', c]
  else if isControl c then
    '\x5c' :: 'u' :: ['0', '0', Hex.digit (c.toNat / 16), Hex.digit (c.toNat % 16)].map Char.toUpper
  else [c]

/-- The text between three double quotes: line feeds stay, and of quotes in a row every third is
escaped. The count is of the quotes just before.
-/
def escapeLines : Nat → List Char → List Char
  | _, [] => []
  | row, c :: rest =>
    if c = '\n' then c :: escapeLines 0 rest
    else if c = '\x22' then
      if row = 2 then '\x5c' :: c :: escapeLines 0 rest else c :: escapeLines (row + 1) rest
    else escapeChar c ++ escapeLines 0 rest

/-- A quoted text. Between three quotes a text of several lines begins on a line of its own. -/
def renderText (text : String) : List Char :=
  let text := text.toList
  let start := if text.contains '\n' then ['\n'] else []
  match style text with
  | .basic => '\x22' :: text.flatMap escapeChar ++ ['\x22']
  | .literal => '\x27' :: text ++ ['\x27']
  | .basicLines =>
    List.replicate 3 '\x22' ++ start ++ escapeLines 0 text ++ List.replicate 3 '\x22'
  | .literalLines => List.replicate 3 '\x27' ++ start ++ text ++ List.replicate 3 '\x27'

/-- A list of texts. -/
def renderTexts : List String → List Char
  | [] => ['[', ']']
  | [text] => '[' :: renderText text ++ [']']
  | texts =>
    '[' :: '\n' :: texts.flatMap (fun text => "    ".toList ++ renderText text ++ [',', '\n'])
      ++ [']']

/-- A truth value. -/
def renderTruth (value : Bool) : List Char :=
  (if value then "true" else "false").toList

end ValueHistory.Toml
