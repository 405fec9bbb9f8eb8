/-!
# Octets

Bodies, field values and files are lists of octets.  A text is encoded in octets
in one way; octets that encode no text give none back.
-/

namespace Multiplex

/-- The octets of a body, a field value or a file. -/
abbrev Octets := List UInt8

namespace Octets

/-- The octets that encode a text. -/
def ofText (text : String) : Octets := text.toUTF8.data.toList

/-- The text that octets encode. -/
def toText? (octets : Octets) : Option String := String.fromUTF8? ⟨octets.toArray⟩

/-- A text is read back from the octets that encode it. -/
theorem toText?_ofText (text : String) : (ofText text).toText? = some text := by
  simp only [ofText, toText?, Array.toArray_toList, String.fromUTF8?,
    String.toUTF8_eq_toByteArray, dif_pos text.isValidUTF8]
  rfl

end Octets

end Multiplex
