import Lexis.Diagnostic
import Lexis.Utf8.Lossy

/-!
# Lines and columns

Translating byte offsets to lines and columns. A tracker remembers where its last query led and
walks from there to the next, counting the line terminators that it crosses. The bounds of the
line are known only after a terminator has been crossed in the right direction, and are searched
for when they are needed.

Line feeds, carriage returns and the separators U+2028 and U+2029 end lines; a carriage return and
the line feed after it end one line together.
-/

namespace Lexis

/-- Whether the encoding of U+2028 or U+2029 begins at the offset. -/
def isSeparatorAt (bytes : ByteArray) (offset : Nat) : Bool :=
  bytes[offset]? == some 0xE2 && bytes[offset + 1]? == some 0x80 &&
    (bytes[offset + 2]? == some 0xA8 || bytes[offset + 2]? == some 0xA9)

def isLineBreakByte (b : UInt8) : Bool := b == 0x0A || b == 0x0D

/-- The width of the line terminator that begins at the offset, zero if there is none. -/
def terminatorWidthAt (bytes : ByteArray) (offset : Nat) : Nat :=
  if bytes[offset]?.any isLineBreakByte then 1
  else if isSeparatorAt bytes offset then 3
  else 0

/-- The width of the line terminator that ends at the offset, zero if there is none. -/
def terminatorWidthBefore (bytes : ByteArray) (offset : Nat) : Nat :=
  if 3 ≤ offset && isSeparatorAt bytes (offset - 3) then 3
  else if 1 ≤ offset && bytes[offset - 1]?.any isLineBreakByte then 1
  else 0

/-- The number of lines that the terminator at the offset ends: none if it is a line feed that
belongs to the carriage return before it. -/
def linesEndedAt (bytes : ByteArray) (offset : Nat) : Nat :=
  if bytes[offset]? == some 0x0A && 1 ≤ offset && bytes[offset - 1]? == some 0x0D then 0 else 1

/-- The offset behind the last line terminator that ends at or before the given one. -/
def lineStartBefore (bytes : ByteArray) : Nat → Nat
  | 0 => 0
  | offset + 1 =>
    if terminatorWidthBefore bytes (offset + 1) = 0 then lineStartBefore bytes offset
    else offset + 1

/-- The offset of the first line terminator that begins at or after the given one. -/
def lineEndFrom (bytes : ByteArray) (offset : Nat) : Nat :=
  if offset < bytes.size then
    if terminatorWidthAt bytes offset = 0 then lineEndFrom bytes (offset + 1) else offset
  else bytes.size
termination_by bytes.size - offset

/-- The number of code points that begin in the `len` bytes from `start` on. -/
def codePointsIn (bytes : ByteArray) (start : Nat) : (len : Nat) → Nat
  | 0 => 0
  | len + 1 =>
    codePointsIn bytes start len + (bytes[start + len]?.any (!Utf8.isContinuation ·)).toNat

/-- The coordinates of a byte offset. They are kept in 32 bits, where those of a buffer below 4 GiB
fit; sources are capped there (`Source.size_lt`). -/
structure LineColumn where
  /-- The line, counted from one. -/
  line : Nat
  /-- The column in code points, counted from zero. -/
  column : Nat
  /-- The offset at which the line begins. -/
  lineStart : Nat
  /-- The offset of the terminator of the line, or the end of the source. -/
  lineEnd : Nat
  deriving DecidableEq, Inhabited

structure LineTracker where
  path : String
  bytes : ByteArray
  /-- Where the last query led. -/
  offset : Nat := 0
  /-- The number of lines that end before `offset`. -/
  line : Nat := 0
  /-- Where the line at `offset` begins, if that is known. -/
  lineStart? : Option Nat := some 0
  /-- Where the line at `offset` ends, if that is known. -/
  lineEnd? : Option Nat := none

namespace LineTracker

/-- Walks on until no code point that starts before `target` is left. -/
def forward (target : Nat) (t : LineTracker) : LineTracker :=
  if t.offset < target then
    let width := terminatorWidthAt t.bytes t.offset
    if width = 0 then forward target { t with offset := t.offset + 1 }
    else
      forward target
        { t with
          offset := t.offset + width
          line := t.line + linesEndedAt t.bytes t.offset
          lineStart? := some (t.offset + width)
          lineEnd? := none }
  else t
termination_by target - t.offset

/-- Walks back until no code point that starts at or after `target` has been passed. -/
def backward (target : Nat) (t : LineTracker) : LineTracker :=
  if target < t.offset then
    let width := terminatorWidthBefore t.bytes t.offset
    if width = 0 then backward target { t with offset := t.offset - 1 }
    else
      backward target
        { t with
          offset := t.offset - width
          line := t.line - linesEndedAt t.bytes (t.offset - width)
          lineStart? := none
          lineEnd? := some (t.offset - width) }
  else t
termination_by t.offset

/-- Learns the bounds of the line at the offset. -/
def resolve (t : LineTracker) : LineTracker :=
  { t with
    lineStart? := some (t.lineStart?.getD (lineStartBefore t.bytes t.offset))
    lineEnd? := some (t.lineEnd?.getD (lineEndFrom t.bytes t.offset)) }

/-- The coordinates of an offset; an offset beyond the source stands for its end. -/
def locate (t : LineTracker) (offset : Nat) : LineColumn × LineTracker :=
  let offset := min offset t.bytes.size
  let t := (t.forward offset |>.backward offset).resolve
  let lineStart := t.lineStart?.getD 0
  let column := codePointsIn t.bytes lineStart (offset - lineStart)
  (⟨t.line + 1, column, lineStart, t.lineEnd?.getD 0⟩, t)

def lineText (t : LineTracker) (lineStart lineEnd : Nat) : String :=
  Utf8.lossy ((Span.mk lineStart lineEnd).slice t.bytes)

/-- The location of a span, for the reader of a message. -/
def location (t : LineTracker) (span : Span) : Location × LineTracker :=
  let (place, t) := t.locate span.start
  (⟨t.path, place.line, place.column, span.len, t.lineText place.lineStart place.lineEnd⟩, t)

end LineTracker

end Lexis
