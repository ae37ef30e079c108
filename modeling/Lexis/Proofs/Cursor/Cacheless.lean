import Lexis.Proofs.Cursor.Runs

/-!
# Cursors that differ in their caches

Two cursors may be the same without their caches while the one has cached what the other decodes.
They show the same, find the same ahead of them, and stay the same but for their caches wherever
they move.
-/

namespace Lexis

namespace Cursor

variable {c d : Cursor}

theorem current_eq_of_plain (h : c.plain = d.plain) : c.current = d.current :=
  congrArg PlainCursor.current h

theorem index_eq_of_plain (h : c.plain = d.plain) : c.index = d.index :=
  congrArg PlainCursor.index h

theorem bytes_eq_of_plain (h : c.plain = d.plain) : c.bytes = d.bytes :=
  congrArg PlainCursor.bytes h

theorem nextOffset_eq_of_plain (h : c.plain = d.plain) : c.nextOffset = d.nextOffset :=
  congrArg PlainCursor.nextOffset h

theorem plain_advance_eq (h : c.plain = d.plain) : c.advance.plain = d.advance.plain := by
  rw [plain_advance, plain_advance, h]

theorem plain_advanceBy_eq (n : Nat) (h : c.plain = d.plain) :
    (c.advanceBy n).plain = (d.advanceBy n).plain := by
  induction n generalizing c d with
  | zero => exact h
  | succ n ih => exact ih (plain_advance_eq h)

theorem plain_peek_eq (n : Nat) (h : c.plain = d.plain) :
    (c.peek n).2.plain = (d.peek n).2.plain := by
  rw [plain_peek_snd, plain_peek_snd, h]

theorem peek_fst_congr {n : Nat} (hn : n ≤ UInt32.size) (h : c.plain = d.plain) :
    (c.peek n).1 = (d.peek n).1 := by
  rw [c.peek_fst_eq (c.not_overflows hn), d.peek_fst_eq (d.not_overflows hn), h]

theorem plain_isFollowedBy (c : Cursor) (text : List Char) (distance : Nat) :
    (c.isFollowedBy text distance).2.plain = c.plain := by
  induction text generalizing c distance with
  | nil => rfl
  | cons ch text ih =>
    simp only [isFollowedBy]
    split
    · rw [ih, plain_peek_snd]
    · exact c.plain_peek_snd distance

theorem isFollowedBy_fst_congr (text : List Char) {distance : Nat} (hn : distance ≤ UInt32.size)
    (h : c.plain = d.plain) :
    (c.isFollowedBy text distance).1 = (d.isFollowedBy text distance).1 := by
  induction text generalizing c d distance with
  | nil => rfl
  | cons ch text ih =>
    simp only [isFollowedBy, peek_fst_congr hn h]
    split
    · rename_i hch
      exact ih (lt_of_is_peek hn hch) (plain_peek_eq distance h)
    · rfl

theorem plain_startsWith (c : Cursor) (text : List Char) :
    (c.startsWith text).2.plain = c.plain := by
  unfold startsWith
  split
  · rfl
  · split
    · exact c.plain_isFollowedBy _ 1
    · rfl

theorem startsWith_fst_congr (text : List Char) (h : c.plain = d.plain) :
    (c.startsWith text).1 = (d.startsWith text).1 := by
  cases text with
  | nil => rfl
  | cons ch text =>
    simp only [startsWith, current_eq_of_plain h]
    split
    · exact isFollowedBy_fst_congr text (by decide) h
    · rfl

theorem plain_lookahead (c : Cursor) (n : Nat) : (c.lookahead n).2.plain = c.plain := by
  have hcollect : ∀ distance, (lookahead.collect n distance c).2.plain = c.plain := by
    induction n generalizing c with
    | zero => exact fun _ => rfl
    | succ n ih =>
      intro distance
      simp only [lookahead.collect]
      split
      · exact (ih (c.peek distance).2 (distance + 1)).trans (c.plain_peek_snd distance)
      · exact c.plain_peek_snd distance
  exact hcollect 1

theorem lookahead_fst_congr (n : Nat) (h : c.plain = d.plain) :
    (c.lookahead n).1 = (d.lookahead n).1 := by
  rw [lookahead_fst, lookahead_fst, upcoming, upcoming, bytes_eq_of_plain h,
    nextOffset_eq_of_plain h]

theorem plain_skipWhile_eq (p : Char → Bool) (h : c.plain = d.plain) :
    (c.skipWhile p).plain = (d.skipWhile p).plain := by
  rw [plain_skipWhile, plain_skipWhile, h]

theorem plain_skipAsciiWhile_eq (p : Char → Bool) (h : c.plain = d.plain) :
    (c.skipAsciiWhile p).plain = (d.skipAsciiWhile p).plain := by
  rw [plain_skipAsciiWhile, plain_skipAsciiWhile, h]

theorem plain_skipToLineEnd_eq (h : c.plain = d.plain) :
    c.skipToLineEnd.plain = d.skipToLineEnd.plain := by
  rw [plain_skipToLineEnd, plain_skipToLineEnd, h]

end Cursor

end Lexis
