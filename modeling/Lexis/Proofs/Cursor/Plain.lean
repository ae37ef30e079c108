import Lexis.Cursor.Runs
import Lexis.Proofs.Utf8.Spelling

/-!
# Plain cursors

A plain cursor has no cache and takes every step on its own. `Cursor.plain` forgets what a cursor has
beyond that; each operation of a cursor leads to where single steps lead the plain one. The cases
with an argument are the runs that are skipped at once (`plain_skipAsciiWhile`,
`plain_skipToLineEnd`).
-/

namespace Lexis

open CharClass

/-- A cursor that decodes one code point at a time. -/
structure PlainCursor where
  bytes : ByteArray
  current : CodePoint
  index : Nat
  newlines : Nat

namespace PlainCursor

def ofBytes (bytes : ByteArray) : PlainCursor := ⟨bytes, .beforeStart, 0, 0⟩

def nextOffset (c : PlainCursor) : Nat := c.index + c.current.utf8Size

/-- The cursor on what stands at the offset. -/
def stepTo (c : PlainCursor) (offset : Nat) : PlainCursor :=
  let cp := CodePoint.readAt c.bytes offset
  { c with
    current := cp
    index := offset
    newlines := if cp.is '\n' then c.newlines + 1 else c.newlines }

def advance (c : PlainCursor) : PlainCursor :=
  if c.current = .endOfInput then c else c.stepTo c.nextOffset

def advanceBy (c : PlainCursor) : Nat → PlainCursor
  | 0 => c
  | n + 1 => c.advance.advanceBy n

/-- What `n` steps would make the current code point. -/
def peek (c : PlainCursor) (n : Nat) : CodePoint := (c.advanceBy n).current

def remaining (c : PlainCursor) : Nat :=
  if c.current = .endOfInput then 0 else c.bytes.size - c.index + 1

theorem remaining_advance_lt {c : PlainCursor} {ch : Char} (h : c.current = .scalar ch) :
    c.advance.remaining < c.remaining := by
  have hpos := ch.utf8Size_pos
  have hnext : c.nextOffset = c.index + ch.utf8Size := by
    rw [nextOffset, h, CodePoint.utf8Size_scalar]
  simp only [advance, h, reduceCtorEq, if_false, remaining, stepTo, hnext]
  split
  · omega
  · rename_i hend
    have hlt : c.index + ch.utf8Size < c.bytes.size := by
      refine Nat.lt_of_not_le fun hle => hend ?_
      exact CodePoint.readAt_of_none (Utf8.charAt?_eq_none_of_size_le hle)
    omega

def stepWhile (p : Char → Bool) (c : PlainCursor) : PlainCursor :=
  match h : c.current with
  | .scalar ch =>
    have := remaining_advance_lt h
    if p ch then c.advance.stepWhile p else c
  | _ => c
termination_by c.remaining

theorem stepWhile_of_scalar {p : Char → Bool} {c : PlainCursor} {ch : Char}
    (h : c.current = .scalar ch) :
    c.stepWhile p = if p ch then c.advance.stepWhile p else c := by
  rw [stepWhile]
  split
  · rename_i d hd
    obtain rfl : ch = d := by simpa [h] using hd
    rfl
  · rename_i hnot
    exact absurd h (hnot ch)

theorem stepWhile_of_forall_ne {p : Char → Bool} {c : PlainCursor}
    (h : ∀ ch, c.current = .scalar ch → p ch = false) : c.stepWhile p = c := by
  rw [stepWhile]
  split
  · rename_i ch hch
    simp [h ch hch]
  · rfl

theorem advanceBy_succ (c : PlainCursor) (n : Nat) :
    c.advanceBy (n + 1) = (c.advanceBy n).advance := by
  induction n generalizing c with
  | zero => rfl
  | succ n ih => exact ih c.advance

theorem stepWhile_advanceBy {p : Char → Bool} {c : PlainCursor} (n : Nat)
    (h : ∀ k, k < n → ∃ ch, (c.advanceBy k).current = .scalar ch ∧ p ch = true) :
    (c.advanceBy n).stepWhile p = c.stepWhile p := by
  induction n generalizing c with
  | zero => rfl
  | succ n ih =>
    obtain ⟨ch, hcur, hp⟩ := h 0 (Nat.zero_lt_succ n)
    rw [stepWhile_of_scalar (c := c) hcur, if_pos hp]
    exact ih fun k hk => h (k + 1) (Nat.succ_lt_succ hk)

/-- Steps that are taken in a narrower class may be taken before the others. -/
theorem stepWhile_stepWhile {p q : Char → Bool} {c : PlainCursor}
    (h : ∀ ch, q ch = true → p ch = true) : (c.stepWhile q).stepWhile p = c.stepWhile p := by
  fun_induction stepWhile q c with
  | case1 c ch hcur _ hq ih => rw [ih, stepWhile_of_scalar (c := c) hcur, if_pos (h ch hq)]
  | case2 => rfl
  | case3 => rfl

theorem not_of_current_stepWhile {q : Char → Bool} {c : PlainCursor} {ch : Char}
    (h : (c.stepWhile q).current = .scalar ch) : q ch = false := by
  fun_induction stepWhile q c with
  | case1 c d hcur _ hq ih => exact ih h
  | case2 c d hcur _ hq =>
    cases hcur.symm.trans h
    exact eq_false_of_ne_true hq
  | case3 c hnot => exact absurd h (hnot ch)

end PlainCursor

namespace Cursor

/-- The cursor without its cache. -/
def plain (c : Cursor) : PlainCursor := ⟨c.bytes, c.current, c.index, c.newlines⟩

theorem plain_ofBytes (bytes : ByteArray) (capacity : Nat) :
    (ofBytes bytes capacity).plain = .ofBytes (ofBytes bytes capacity).bytes := rfl

theorem plain_nextOffset (c : Cursor) : c.plain.nextOffset = c.nextOffset := rfl

theorem plain_advance (c : Cursor) : c.advance.plain = c.plain.advance := by
  by_cases h : c.current = .endOfInput
  · have hplain : c.plain.advance = c.plain := if_pos h
    rw [advance_of_end h, hplain]
  · have hplain : c.plain.advance = c.plain.stepTo c.nextOffset := if_neg h
    rw [hplain]
    simp only [advance, dif_neg h, plain, PlainCursor.stepTo, ahead_eq]
    rfl

theorem plain_peek_snd (c : Cursor) (n : Nat) : (c.peek n).2.plain = c.plain := by
  obtain ⟨hbytes, hcur, hidx, _, hnew⟩ := c.peek_snd n
  simp only [plain, hbytes, hcur, hidx, hnew]

theorem plain_current_advanceBy_succ (c : Cursor) (n : Nat) :
    (c.plain.advanceBy (n + 1)).current = CodePoint.ofChar? c.upcoming[n]? := by
  induction n generalizing c with
  | zero =>
    show c.plain.advance.current = _
    rw [← plain_advance]
    show c.advance.current = _
    rw [current_advance, CodePoint.readAt_eq_ofChar?_head?]
    rfl
  | succ n ih =>
    rw [PlainCursor.advanceBy, ← plain_advance, ih, upcoming_advance, List.getElem?_tail]

theorem peek_fst_eq (c : Cursor) {n : Nat} (h : ¬ c.Overflows n) :
    (c.peek n).1 = c.plain.peek n := by
  cases n with
  | zero => simp [peek, PlainCursor.peek, PlainCursor.advanceBy, plain]
  | succ n => rw [c.peek_fst h, PlainCursor.peek, plain_current_advanceBy_succ]

theorem plain_skipWhile (p : Char → Bool) (c : Cursor) :
    (c.skipWhile p).plain = c.plain.stepWhile p := by
  fun_induction skipWhile p c with
  | case1 c ch h hlt hp ih =>
    rw [ih, plain_advance, PlainCursor.stepWhile_of_scalar (c := c.plain) h, if_pos hp]
  | case2 c ch h hlt hp =>
    rw [PlainCursor.stepWhile_of_scalar (c := c.plain) h, if_neg hp]
  | case3 c hnot =>
    rw [PlainCursor.stepWhile_of_forall_ne fun ch hch => absurd hch (hnot ch)]

end Cursor

end Lexis
