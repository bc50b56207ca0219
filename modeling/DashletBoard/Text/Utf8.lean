/-
Module: DashletBoard.Text.Utf8
Purpose: The UTF-8 bytes of a text, and the text that a list of bytes is the UTF-8 form of.
Main exports: utf8Bytes, ofUtf8?, withoutMark, ofUtf8?_utf8Bytes
-/

namespace DashletBoard.Text

/-- The UTF-8 bytes of a text, character by character. -/
def utf8Bytes (text : List Char) : List UInt8 :=
  text.flatMap String.utf8EncodeChar

/-- The text whose UTF-8 form the bytes are; bytes that are no UTF-8 have none. -/
def ofUtf8? (bytes : List UInt8) : Option String :=
  String.fromUTF8? bytes.toByteArray

/-- A text without the byte order mark at its front, if it has one there. -/
def withoutMark : List Char → List Char
  | '\ufeff' :: rest => rest
  | text => text

/-- The bytes of a text are read back as the text. -/
theorem ofUtf8?_utf8Bytes (text : List Char) :
    ofUtf8? (utf8Bytes text) = some (String.ofList text) := by
  have h : (utf8Bytes text).toByteArray = (String.ofList text).toByteArray := rfl
  rw [ofUtf8?, h, String.fromUTF8?, dif_pos (String.ofList text).isValidUTF8]
  rfl

end DashletBoard.Text
