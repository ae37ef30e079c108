import Lexis.Text.Quoted
import Lexis.Utf8

/-!
# What stands at a place in the input

`CodePoint.readAt bytes offset` is what a reader finds at an offset: a decoded code point, or the
end of the input. Malformed bytes end the input.
-/

namespace Lexis

inductive CodePoint where
  /-- The reader has not taken its first step. -/
  | beforeStart
  /-- No more input, or none that is well formed. -/
  | endOfInput
  | scalar (c : Char)
  deriving DecidableEq, Inhabited

namespace CodePoint

def ofChar? : Option Char → CodePoint
  | some c => .scalar c
  | none => .endOfInput

def readAt (bytes : ByteArray) (offset : Nat) : CodePoint := ofChar? (Utf8.charAt? bytes offset)

def toChar? : CodePoint → Option Char
  | .scalar c => some c
  | _ => none

def isEnd : CodePoint → Bool
  | .endOfInput => true
  | _ => false

def isScalar : CodePoint → Bool
  | .scalar _ => true
  | _ => false

def is (cp : CodePoint) (c : Char) : Bool := cp == .scalar c

/-- The width of the encoding; nothing has no width. -/
def utf8Size : CodePoint → Nat
  | .scalar c => c.utf8Size
  | _ => 0

/-- The code point in single quotes, or the name of what stands in its place. -/
def quoted : CodePoint → String
  | .beforeStart => "BEFORE_START"
  | .endOfInput => "END"
  | .scalar c => Text.quoteChar c

@[simp]
theorem toChar?_ofChar? (c? : Option Char) : (ofChar? c?).toChar? = c? := by
  cases c? <;> rfl

@[simp]
theorem utf8Size_scalar (c : Char) : utf8Size (.scalar c) = c.utf8Size := rfl

@[simp]
theorem utf8Size_endOfInput : utf8Size .endOfInput = 0 := rfl

@[simp]
theorem utf8Size_beforeStart : utf8Size .beforeStart = 0 := rfl

theorem readAt_of_some {bytes : ByteArray} {offset : Nat} {c : Char}
    (h : Utf8.charAt? bytes offset = some c) : CodePoint.readAt bytes offset = .scalar c := by
  simp [CodePoint.readAt, h, ofChar?]

theorem readAt_of_none {bytes : ByteArray} {offset : Nat} (h : Utf8.charAt? bytes offset = none) :
    CodePoint.readAt bytes offset = .endOfInput := by
  simp [CodePoint.readAt, h, ofChar?]

theorem readAt_ne_beforeStart (bytes : ByteArray) (offset : Nat) :
    CodePoint.readAt bytes offset ≠ .beforeStart := by
  cases hc : Utf8.charAt? bytes offset with
  | none => simp [readAt_of_none hc]
  | some c => simp [readAt_of_some hc]

theorem readAt_eq_ofChar?_head? (bytes : ByteArray) (offset : Nat) :
    CodePoint.readAt bytes offset = ofChar? (Utf8.textFrom bytes offset)[0]? := by
  rw [← List.head?_eq_getElem?, Utf8.head?_textFrom, CodePoint.readAt]

theorem add_utf8Size_readAt_le {bytes : ByteArray} {offset : Nat} (h : offset ≤ bytes.size) :
    offset + (CodePoint.readAt bytes offset).utf8Size ≤ bytes.size := by
  cases hc : Utf8.charAt? bytes offset with
  | none => simpa [readAt_of_none hc] using h
  | some c => simpa [readAt_of_some hc] using Utf8.le_size_of_charAt? hc

end CodePoint

end Lexis
