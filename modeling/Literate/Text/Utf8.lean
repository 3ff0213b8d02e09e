import Literate.Text.Basic

/-!
# UTF-8

Bytes and text.  Reading back what was written gives the text, and writing what
was read gives the bytes.
-/

namespace Literate
namespace Text

/-- The bytes of a text. -/
def encode (t : Text) : ByteArray :=
  (String.ofList t).toUTF8

/-- The text of bytes, when they are UTF-8. -/
def decode? (bytes : ByteArray) : Option Text :=
  bytes.utf8Decode?.map Array.toList

/-- Reading back what was written gives the text. -/
theorem decode?_encode (t : Text) : decode? (encode t) = some t := by
  simp [decode?, encode, String.toUTF8, String.ofList]

/-- Bytes that are UTF-8 are those of their text. -/
theorem encode_of_decode? {bytes : ByteArray} {t : Text} (h : decode? bytes = some t) :
    encode t = bytes := by
  obtain ⟨chars, hchars, rfl⟩ := Option.map_eq_some_iff.mp h
  have hencode := ByteArray.utf8Encode_get_utf8Decode? (b := bytes) (h := by rw [hchars]; rfl)
  simpa [encode, String.toUTF8, String.ofList, hchars] using hencode

theorem encode_injective {t u : Text} (h : encode t = encode u) : t = u := by
  have hdecode := decode?_encode t
  rw [h, decode?_encode] at hdecode
  exact (Option.some.inj hdecode).symm

end Text
end Literate
