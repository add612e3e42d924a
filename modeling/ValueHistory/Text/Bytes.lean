/-! Byte strings and the texts they spell. Keys and payloads are byte strings; a text becomes
one through UTF-8, and only a well-formed byte string is read back as a text.
-/

namespace ValueHistory

/-- A byte string, first byte first. -/
abbrev Bytes := List UInt8

namespace Bytes

/-- The UTF-8 bytes of a text. -/
def ofString (text : String) : Bytes :=
  text.toByteArray.data.toList

/-- The text that the bytes spell in UTF-8, if they are well-formed. -/
def toString? (bytes : Bytes) : Option String :=
  String.fromUTF8? ⟨bytes.toArray⟩

/-- Writing a text and reading it back gives the text, since its bytes are well-formed. -/
theorem toString?_ofString (text : String) : toString? (ofString text) = some text := by
  simp only [toString?, ofString, String.fromUTF8?]
  exact dif_pos text.isValidUTF8

/-- The bytes of a concatenation are those of its parts in order. -/
theorem ofString_append (left right : String)
    : ofString (left ++ right) = ofString left ++ ofString right := by
  simp [ofString]

end Bytes

end ValueHistory
