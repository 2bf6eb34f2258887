/-!
Text as bytes in UTF-8, and back. Main statement: bytes read as a text exactly if they are that
text's bytes.
-/

namespace TypedLambda

def utf8 (s : String) : List UInt8 := s.toByteArray.data.toList

/-- The text that the bytes spell, if they spell one. -/
def ofUtf8? (bytes : List UInt8) : Option String := String.fromUTF8? ⟨bytes.toArray⟩

@[simp] theorem utf8_empty : utf8 "" = [] := by simp [utf8]

theorem utf8_append (s t : String) : utf8 (s ++ t) = utf8 s ++ utf8 t := by
  simp [utf8, String.toByteArray_append]

theorem ofUtf8?_eq_some {bytes : List UInt8} {s : String} :
    ofUtf8? bytes = some s ↔ bytes = utf8 s := by
  unfold ofUtf8? String.fromUTF8? utf8
  constructor
  · intro h
    split at h
    · cases h; rfl
    · cases h
  · rintro rfl
    have h : (ByteArray.mk s.toByteArray.data.toList.toArray) = s.toByteArray := by simp
    rw [h, dif_pos]
    rfl

theorem ofUtf8?_utf8 (s : String) : ofUtf8? (utf8 s) = some s := ofUtf8?_eq_some.mpr rfl

end TypedLambda
