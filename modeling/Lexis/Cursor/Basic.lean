import Lexis.Cursor.Agreement

/-!
# Cursors

A cursor reads a byte buffer code point by code point. It starts before the first one, never moves
back, and stays where it is once it has come to the end of the input. Looking ahead does not move
it, but fills a cache from which the following steps are served.

What the cache holds is what decoding would give; the type keeps that, with the bounds on the
offsets, as proof fields, so that every statement about a cursor can be read off the buffer and the
offset alone: `upcoming` is the text behind the current code point, `peek_fst` says that looking
ahead reads from it, and `upcoming_advance` that a step drops its first code point.
-/

namespace Lexis

structure Cursor where
  bytes : ByteArray
  /-- The code point at `index`. -/
  current : CodePoint
  index : Nat
  /-- The number of steps taken; it keys the cache. -/
  position : Nat
  /-- The line feeds stepped onto so far. -/
  newlines : Nat
  cache : LookaheadCache
  size_lt : bytes.size < UInt32.size
  index_le : index ≤ bytes.size
  position_le : position ≤ index + 1
  current_eq : current = .beforeStart ∧ index = 0 ∧ position = 0 ∨
    current = CodePoint.readAt bytes index
  cache_agrees : cache.Agrees bytes (position + 1) (index + current.utf8Size)

namespace Cursor

/-- A cursor before the first code point of the buffer. Offsets are kept below 4 GiB; what lies
beyond is out of reach. -/
def ofBytes (bytes : ByteArray) (capacity : Nat) : Cursor :=
  let bytes := if bytes.size < UInt32.size then bytes else bytes.extract 0 (UInt32.size - 1)
  have size_lt : bytes.size < UInt32.size := by
    show (if _ then _ else _ : ByteArray).size < _
    split
    · assumption
    · have hpos : 0 < UInt32.size := by decide
      rw [ByteArray.size_extract]
      omega
  { bytes, current := .beforeStart, index := 0, position := 0, newlines := 0
    cache := .empty capacity
    size_lt
    index_le := Nat.zero_le _
    position_le := Nat.zero_le _
    current_eq := .inl ⟨rfl, rfl, rfl⟩
    cache_agrees := LookaheadCache.agrees_empty capacity _ size_lt (by omega) }

/-- The offset behind the current code point. -/
def nextOffset (c : Cursor) : Nat := c.index + c.current.utf8Size

def isEnd (c : Cursor) : Bool := c.current.isEnd

/-- The code points behind the current one. -/
def upcoming (c : Cursor) : List Char := Utf8.textFrom c.bytes c.nextOffset

theorem nextOffset_le (c : Cursor) : c.nextOffset ≤ c.bytes.size := by
  rcases c.current_eq with ⟨hcur, hidx, _⟩ | hcur
  · simp [nextOffset, hcur, hidx]
  · rw [nextOffset, hcur]
    exact CodePoint.add_utf8Size_readAt_le c.index_le

theorem charAt?_index_of_scalar {c : Cursor} {ch : Char} (h : c.current = .scalar ch) :
    Utf8.charAt? c.bytes c.index = some ch := by
  rcases c.current_eq with ⟨hcur, _⟩ | hcur
  · simp [hcur] at h
  · cases hc : Utf8.charAt? c.bytes c.index with
    | none =>
      rw [h, CodePoint.readAt_of_none hc] at hcur
      cases hcur
    | some d =>
      rw [h, CodePoint.readAt_of_some hc] at hcur
      cases hcur
      rfl

theorem index_lt_of_scalar {c : Cursor} {ch : Char} (h : c.current = .scalar ch) :
    c.index < c.bytes.size :=
  Utf8.lt_size_of_charAt? (charAt?_index_of_scalar h)

theorem index_lt_nextOffset_of_scalar {c : Cursor} {ch : Char} (h : c.current = .scalar ch) :
    c.index < c.nextOffset := by
  have := ch.utf8Size_pos
  simp only [nextOffset, h, CodePoint.utf8Size_scalar]
  omega

/-! ## Single steps -/

/-- What the next step comes to: the cached code point, or else a decoded one. -/
def ahead (c : Cursor) : CodePoint :=
  match c.cache.get? (c.position + 1) with
  | some (cp, _) => cp
  | none => CodePoint.readAt c.bytes c.nextOffset

theorem ahead_eq (c : Cursor) : c.ahead = CodePoint.readAt c.bytes c.nextOffset := by
  unfold ahead
  split
  · rename_i cp next h
    rw [(c.cache_agrees 0 cp next h).1, CodePoint.readAt_eq_ofChar?_head?]
    rfl
  · rfl

/-- Steps onto the next code point, or to the end of the input. -/
def advance (c : Cursor) : Cursor :=
  if h : c.current = .endOfInput then c else
    { c with
      current := c.ahead
      index := c.nextOffset
      position := c.position + 1
      newlines := if c.ahead.is '\n' then c.newlines + 1 else c.newlines
      index_le := c.nextOffset_le
      position_le := by
        rcases c.current_eq with ⟨_, hidx, hpos⟩ | hcur
        · omega
        · cases hch : c.current with
          | beforeStart => exact absurd (hch ▸ hcur).symm (CodePoint.readAt_ne_beforeStart _ _)
          | endOfInput => exact absurd hch h
          | scalar ch =>
            have := index_lt_nextOffset_of_scalar hch
            have := c.position_le
            omega
      current_eq := .inr c.ahead_eq
      cache_agrees := by
        rw [c.ahead_eq]
        exact c.cache_agrees.tail }

theorem advance_of_end {c : Cursor} (h : c.current = .endOfInput) : c.advance = c := by
  simp [advance, h]

@[simp]
theorem bytes_advance (c : Cursor) : c.advance.bytes = c.bytes := by
  unfold advance
  split <;> rfl

theorem current_advance (c : Cursor) :
    c.advance.current = CodePoint.readAt c.bytes c.nextOffset := by
  unfold advance
  split
  · rename_i h
    rcases c.current_eq with ⟨hcur, _⟩ | hcur
    · simp [hcur] at h
    · simpa [nextOffset, h] using hcur
  · exact c.ahead_eq

theorem index_advance (c : Cursor) : c.advance.index = c.nextOffset := by
  unfold advance
  split
  · rename_i h
    simp [nextOffset, h]
  · rfl

theorem upcoming_advance (c : Cursor) : c.advance.upcoming = c.upcoming.tail := by
  have hstop : c.advance.nextOffset =
      c.nextOffset + (CodePoint.readAt c.bytes c.nextOffset).utf8Size := by
    rw [nextOffset, index_advance, current_advance]
  rw [upcoming, upcoming, bytes_advance, hstop]
  cases hc : Utf8.charAt? c.bytes c.nextOffset with
  | none =>
    rw [CodePoint.readAt_of_none hc, CodePoint.utf8Size_endOfInput, Nat.add_zero,
      Utf8.textFrom_of_none hc]
    rfl
  | some d =>
    rw [CodePoint.readAt_of_some hc, CodePoint.utf8Size_scalar, Utf8.textFrom_of_some hc]
    rfl

/-- A bound on the steps that are left, used to end loops that step. -/
def remaining (c : Cursor) : Nat := if c.current.isEnd then 0 else c.bytes.size + 1 - c.index

theorem remaining_of_scalar {c : Cursor} {ch : Char} (h : c.current = .scalar ch) :
    c.remaining = c.bytes.size + 1 - c.index := by
  simp [remaining, h, CodePoint.isEnd]

theorem remaining_le (c : Cursor) : c.remaining ≤ c.bytes.size + 1 - c.index := by
  unfold remaining
  split
  · exact Nat.zero_le _
  · exact Nat.le_refl _

theorem remaining_advance_lt {c : Cursor} {ch : Char} (h : c.current = .scalar ch) :
    c.advance.remaining < c.remaining := by
  have hlt := index_lt_of_scalar h
  have hnext := index_lt_nextOffset_of_scalar h
  rw [remaining_of_scalar h, remaining, bytes_advance, index_advance]
  split <;> omega

theorem remaining_advance_le (c : Cursor) : c.advance.remaining ≤ c.remaining := by
  cases h : c.current with
  | scalar ch => exact Nat.le_of_lt (remaining_advance_lt h)
  | endOfInput => simp [advance_of_end h]
  | beforeStart =>
    rcases c.current_eq with ⟨_, hidx, _⟩ | hcur
    · have hrem : c.remaining = c.bytes.size + 1 := by simp [remaining, h, hidx, CodePoint.isEnd]
      rw [hrem, remaining, bytes_advance]
      split <;> omega
    · exact absurd (h ▸ hcur).symm (CodePoint.readAt_ne_beforeStart _ _)

def advanceBy (c : Cursor) : Nat → Cursor
  | 0 => c
  | n + 1 => c.advance.advanceBy n

theorem remaining_advanceBy_le (c : Cursor) (n : Nat) :
    (c.advanceBy n).remaining ≤ c.remaining := by
  induction n generalizing c with
  | zero => exact Nat.le_refl _
  | succ n ih => exact Nat.le_trans (ih c.advance) c.remaining_advance_le

end Cursor

end Lexis
