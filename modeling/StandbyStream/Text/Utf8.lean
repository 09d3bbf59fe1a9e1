/-!
# UTF-8

Texts as bytes. Not every sequence of bytes is a text.
-/

namespace StandbyStream.Text

/-- The bytes of a text. -/
def encodeUtf8 (s : String) : List UInt8 :=
  s.toByteArray.data.toList

/-- The text with the given bytes, if there is one. -/
def decodeUtf8? (bytes : List UInt8) : Option String :=
  String.fromUTF8? ⟨bytes.toArray⟩

theorem decodeUtf8?_encodeUtf8 (s : String) : decodeUtf8? (encodeUtf8 s) = some s := by
  have : (⟨s.toByteArray.data⟩ : ByteArray) = s.toByteArray := rfl
  simp only [decodeUtf8?, encodeUtf8, String.fromUTF8?, this, Array.toArray_toList, s.isValidUTF8]
  rfl

end StandbyStream.Text
