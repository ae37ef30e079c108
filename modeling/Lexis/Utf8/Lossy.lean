import Lexis.Utf8

/-!
# Text of malformed bytes

Showing bytes that are not UTF-8: well-formed code points are kept, and each longest run of bytes
that begins an encoding without completing it becomes one replacement character.
-/

namespace Lexis.Utf8

/-- The number of bytes in an encoding that begins with `lead`, zero if none does. -/
def encodingWidth (lead : UInt8) : Nat :=
  if lead < 0x80 then 1
  else if 0xC2 ≤ lead ∧ lead ≤ 0xDF then 2
  else if 0xE0 ≤ lead ∧ lead ≤ 0xEF then 3
  else if 0xF0 ≤ lead ∧ lead ≤ 0xF4 then 4
  else 0

/-- Whether `second` can follow `lead`: a continuation byte that makes the encoding neither longer
than needed, nor a surrogate, nor larger than the largest code point. -/
def canFollow (lead second : UInt8) : Bool :=
  if lead = 0xE0 then 0xA0 ≤ second && second ≤ 0xBF
  else if lead = 0xED then 0x80 ≤ second && second ≤ 0x9F
  else if lead = 0xF0 then 0x90 ≤ second && second ≤ 0xBF
  else if lead = 0xF4 then 0x80 ≤ second && second ≤ 0x8F
  else isContinuation second

/-- The length of the malformed run at `offset`: as many bytes as could still begin an encoding,
and at least one. -/
def malformedWidth (bytes : ByteArray) (offset : Nat) : Nat :=
  match bytes[offset]?, bytes[offset + 1]? with
  | some lead, some second =>
    if encodingWidth lead < 3 || !canFollow lead second then 1
    else if encodingWidth lead = 3 || !(bytes[offset + 2]?.any isContinuation) then 2
    else 3
  | _, _ => 1

theorem malformedWidth_pos (bytes : ByteArray) (offset : Nat) :
    0 < malformedWidth bytes offset := by
  unfold malformedWidth
  split
  · split
    · decide
    · split <;> decide
  · decide

/-- The text from `offset` to the end of the bytes, with malformed runs replaced. -/
def lossyFrom (bytes : ByteArray) (offset : Nat) : List Char :=
  if offset < bytes.size then
    match charAt? bytes offset with
    | some c =>
      have := c.utf8Size_pos
      c :: lossyFrom bytes (offset + c.utf8Size)
    | none =>
      have := malformedWidth_pos bytes offset
      '\uFFFD' :: lossyFrom bytes (offset + malformedWidth bytes offset)
  else []
termination_by bytes.size - offset

/-- The bytes as text, with malformed runs replaced. Well-formed bytes are taken as they are. -/
def lossy (bytes : ByteArray) : String :=
  match String.fromUTF8? bytes with
  | some text => text
  | none => String.ofList (lossyFrom bytes 0)

end Lexis.Utf8
