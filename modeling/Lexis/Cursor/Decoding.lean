import Lexis.Cursor.CodePoint
import Lexis.Span
import Lexis.Utf8.Lossy

/-!
# Decoding by announced widths

The first byte of an encoding announces how many there are, so that a code point can be read by
validating these bytes alone.
-/

namespace Lexis.CodePoint

/-- What stands at the offset, and the number of bytes that it takes. Past the end and at malformed
bytes, this is the end of the input without any bytes. -/
def decodeAt (bytes : ByteArray) (offset : Nat) : CodePoint × Nat :=
  match bytes[offset]? with
  | none => (.endOfInput, 0)
  | some lead =>
    if lead < 0x80 then (.scalar (Char.ofUInt8 lead), 1)
    else
      let width := Utf8.encodingWidth lead
      match (Span.ofLength offset width).slice? bytes with
      | none => (.endOfInput, 0)
      | some encoding =>
        match (String.fromUTF8? encoding).bind (·.toList.head?) with
        | some c => if 0 < width then (.scalar c, width) else (.endOfInput, 0)
        | none => (.endOfInput, 0)

end Lexis.CodePoint
