/-! Texts cut into parts at every occurrence of a character. -/

namespace ValueHistory.Text

/-- The parts of a text around a separator, one more than the separator occurs. -/
def split (separator : Char) : List Char → List (List Char)
  | [] => [[]]
  | c :: rest =>
    if c = separator then [] :: split separator rest
    else match split separator rest with
      | [] => [[c]]
      | part :: parts => (c :: part) :: parts

/-- Parts joined by a separator. -/
def join (separator : Char) : List (List Char) → List Char
  | [] => []
  | [part] => part
  | part :: parts => part ++ separator :: join separator parts

end ValueHistory.Text
