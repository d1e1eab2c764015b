/-!
# Texts as bytes

A text and its UTF-8 form determine each other.
-/
namespace RaceOverlay.Text

abbrev Bytes := List UInt8

/-- The UTF-8 form of a text. -/
def toUtf8 (s : String) : Bytes := s.toUTF8.data.toList

/-- The text of which the bytes are the UTF-8 form. -/
def ofUtf8? (bytes : Bytes) : Option String := String.fromUTF8? ⟨bytes.toArray⟩

theorem ofUtf8?_toUtf8 (s : String) : ofUtf8? (toUtf8 s) = some s := by
  simp only [ofUtf8?, toUtf8, Array.toArray_toList, String.fromUTF8?, String.toUTF8_eq_toByteArray,
    s.isValidUTF8, ↓reduceDIte]
  rfl

theorem toUtf8_of_ofUtf8? {bytes : Bytes} {s : String} (h : ofUtf8? bytes = some s) :
    toUtf8 s = bytes := by
  simp only [ofUtf8?, String.fromUTF8?] at h
  split at h
  · cases h
    simp [toUtf8, String.toUTF8_eq_toByteArray, String.fromUTF8]
  · cases h

end RaceOverlay.Text
