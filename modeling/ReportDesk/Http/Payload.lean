/-! # Bodies of requests

    A body is a sequence of bytes, and one that is too long is not taken. What is read of a body is
    a text, while the reader that this follows takes the bytes themselves. Two things that it does
    show in the answers. It passes over a string that nobody asks for without decoding it, so that
    neither bytes that are no UTF-8 nor half a surrogate pair in such a string are noticed; and in a
    string that is decoded both are faults. Outside of strings, and in the escapes of a string that
    is passed over, a byte that is no UTF-8 is no JSON like any other that should not be there.

    So a byte that is no part of a text is read as a letter and an escape for half a surrogate pair.
    The escape is a fault where the string is decoded and only there, and the letter is no JSON
    outside a string, after a backslash and within an escape.
-/

namespace ReportDesk.Http

/-- The body of a request. -/
structure Payload where
  /-- Its bytes. -/
  bytes : ByteArray

namespace Payload

/-- A text is sent as its bytes. -/
instance : Coe String Payload where
  coe text := { bytes := text.toUTF8 }

/-! ### Length -/

/-- How many bytes a body can have. -/
def limit : Nat := 2 * 1024 * 1024

/-- Whether a body is longer than it can be. -/
def isTooLong (payload : Payload) : Bool :=
  limit < payload.bytes.size

/-- What is said of a body that is too long. -/
def tooLongText : String :=
  "Failed to buffer the request body: length limit exceeded"

/-! ### Text -/

/-- What is read instead of a byte that is no part of a text. -/
def unreadable : List Char :=
  ['x', '\\', 'u', 'd', 'c', '0', '0']

/-- The characters of the bytes from place `i` on. -/
def charsFrom (bytes : ByteArray) (i : Nat) : List Char :=
  if i < bytes.size then
    match bytes.utf8DecodeChar? i with
    | some c => c :: charsFrom bytes (i + c.utf8Size)
    | none => unreadable ++ charsFrom bytes (i + 1)
  else []
termination_by bytes.size - i
decreasing_by
  · have := c.utf8Size_pos
    omega
  · omega

/-- The text that is read of a body. -/
def text (payload : Payload) : String :=
  match String.fromUTF8? payload.bytes with
  | some text => text
  | none => String.ofList (charsFrom payload.bytes 0)

/-- A text is read as it was sent. -/
theorem text_coe (text : String) : (text : Payload).text = text := by
  have hread : String.fromUTF8? text.toUTF8 = some text := dif_pos text.isValidUTF8
  rw [Payload.text, hread]

end Payload

end ReportDesk.Http
