/-!
# Byte ranges

A span is a half-open range of byte offsets into one source.
-/

namespace Lexis

/-- The bytes from `start` up to, but not including, `stop`. -/
structure Span where
  start : Nat
  stop : Nat
  deriving DecidableEq, Inhabited

namespace Span

def ofLength (start len : Nat) : Span := ⟨start, start + len⟩

def point (offset : Nat) : Span := ⟨offset, offset⟩

def len (s : Span) : Nat := s.stop - s.start

def isEmpty (s : Span) : Bool := s.start == s.stop

instance : ToString Span where
  toString s := toString s.start ++ ".." ++ toString s.stop

/-- The bytes under the span, if all of it lies inside `bytes`. -/
def slice? (s : Span) (bytes : ByteArray) : Option ByteArray :=
  if s.start ≤ s.stop ∧ s.stop ≤ bytes.size then some (bytes.extract s.start s.stop) else none

/-- The bytes under the span, or none at all if it reaches outside `bytes`. -/
def slice (s : Span) (bytes : ByteArray) : ByteArray :=
  (s.slice? bytes).getD ByteArray.empty

@[simp]
theorem len_ofLength (start len : Nat) : (ofLength start len).len = len := by
  simp [ofLength, Span.len]

@[simp]
theorem len_point (offset : Nat) : (point offset).len = 0 := by
  simp [point, len]

/-- A span that does not end before it starts is empty exactly when it has no length. -/
theorem isEmpty_iff_len_eq_zero (s : Span) (h : s.start ≤ s.stop) :
    s.isEmpty = true ↔ s.len = 0 := by
  simp only [isEmpty, len, beq_iff_eq]
  omega

end Span

end Lexis
