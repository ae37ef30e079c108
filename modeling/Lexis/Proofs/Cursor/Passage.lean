import Lexis.Proofs.Cursor.Runs

/-!
# Text passed by a cursor

Once it has taken its first step, a cursor stands at the beginning of a text, `Cursor.text`, which
ends where decoding fails. Operations pass some of that text: `Passes c text c'` says that nothing
else lies between two cursors over the same bytes.
-/

namespace Lexis

open CharClass

namespace Cursor

/-- The text from the current code point on. -/
def text (c : Cursor) : List Char := Utf8.textFrom c.bytes c.index

/-- The cursor has taken its first step. -/
def Started (c : Cursor) : Prop := c.current ≠ .beforeStart

variable {c c' c'' : Cursor} {ch : Char} {before more : List Char}

theorem Started.of_scalar (h : c.current = .scalar ch) : c.Started := by
  simp [Started, h]

theorem Started.current_eq (h : c.Started) : c.current = CodePoint.readAt c.bytes c.index :=
  c.current_eq.resolve_left fun hstart => h hstart.1

theorem Started.advance (c : Cursor) : c.advance.Started := by
  rw [Started, current_advance]
  exact CodePoint.readAt_ne_beforeStart _ _

theorem Started.current_eq_head (h : c.Started) : c.current = CodePoint.ofChar? c.text[0]? :=
  h.current_eq.trans (CodePoint.readAt_eq_ofChar?_head? _ _)

theorem text_of_scalar (h : c.current = .scalar ch) : c.text = ch :: c.upcoming := by
  rw [text, Utf8.textFrom_of_some (charAt?_index_of_scalar h), upcoming, nextOffset, h,
    CodePoint.utf8Size_scalar]

theorem Started.text_of_not_scalar (h : c.Started) (hnot : ∀ ch, c.current ≠ .scalar ch) :
    c.text = [] := by
  cases htext : c.text with
  | nil => rfl
  | cons ch text =>
    have hcur := h.current_eq_head
    rw [htext] at hcur
    exact absurd hcur (hnot ch)

theorem Started.current_of_text_cons {text : List Char} (h : c.Started)
    (htext : c.text = ch :: text) : c.current = .scalar ch := by
  rw [h.current_eq_head, htext]
  rfl

theorem Started.upcoming_eq_tail (h : c.Started) : c.upcoming = c.text.tail := by
  cases htext : c.text with
  | nil =>
    have hcur : c.current = .endOfInput := by
      rw [h.current_eq_head, htext]
      rfl
    exact upcoming_of_end hcur
  | cons ch text =>
    rw [text_of_scalar (h.current_of_text_cons htext)] at htext
    exact (List.cons.inj htext).2

/-- The text between two cursors. -/
structure Passes (c : Cursor) (passed : List Char) (c' : Cursor) : Prop where
  bytes_eq : c'.bytes = c.bytes
  started : c'.Started
  index_eq : c'.index = c.index + Utf8.size passed
  text_eq : c.text = passed ++ c'.text

namespace Passes

theorem refl (h : c.Started) : c.Passes [] c := ⟨rfl, h, rfl, rfl⟩

theorem trans (h : c.Passes before c') (h' : c'.Passes more c'') :
    c.Passes (before ++ more) c'' where
  bytes_eq := h'.bytes_eq.trans h.bytes_eq
  started := h'.started
  index_eq := by rw [h'.index_eq, h.index_eq, Utf8.size_append, Nat.add_assoc]
  text_eq := by rw [h.text_eq, h'.text_eq, List.append_assoc]

theorem stop_eq (h : c.Passes before c') :
    c'.index + Utf8.size c'.text = c.index + Utf8.size c.text := by
  rw [h.index_eq, h.text_eq, Utf8.size_append, Nat.add_assoc]

theorem index_eq_of_nil (h : c.Passes [] c') : c'.index = c.index := h.index_eq

theorem remaining_eq_of_nil (hstart : c.Started) (h : c.Passes [] c') :
    c'.remaining = c.remaining := by
  have hcur : c'.current = c.current := by
    rw [h.started.current_eq, hstart.current_eq, h.bytes_eq, h.index_eq_of_nil]
  simp only [remaining, hcur, h.bytes_eq, h.index_eq_of_nil]

theorem text_eq_of_nil (h : c.Passes [] c') : c'.text = c.text := h.text_eq.symm

theorem congr (h : c.Passes before c') (hbytes : c''.bytes = c'.bytes)
    (hcur : c''.current = c'.current) (hindex : c''.index = c'.index) : c.Passes before c'' := by
  refine ⟨hbytes.trans h.bytes_eq, ?_, hindex.trans h.index_eq, ?_⟩
  · rw [Started, hcur]
    exact h.started
  · rw [h.text_eq, Cursor.text, Cursor.text, hbytes, hindex]

theorem of_plain_eq (h : c.Passes before c') (heq : c''.plain = c'.plain) :
    c.Passes before c'' :=
  h.congr (congrArg PlainCursor.bytes heq) (congrArg PlainCursor.current heq)
    (congrArg PlainCursor.index heq)

theorem spells (h : c.Passes before c') : Utf8.Spells c.bytes c.index c'.index before := by
  rw [h.index_eq]
  exact Utf8.spells_of_textFrom_eq c.index_le h.text_eq

end Passes

theorem passes_advance (h : c.current = .scalar ch) : c.Passes [ch] c.advance where
  bytes_eq := c.bytes_advance
  started := .advance c
  index_eq := by
    rw [index_advance, nextOffset, h]
    rfl
  text_eq := by
    rw [text_of_scalar h, text, bytes_advance, index_advance]
    rfl

theorem passes_peek (h : c.Started) (n : Nat) : c.Passes [] (c.peek n).2 :=
  (Passes.refl h).of_plain_eq (c.plain_peek_snd n)

theorem passes_advanceBy (h : c.Started) (n : Nat) :
    c.Passes (c.text.take n) (c.advanceBy n) := by
  induction n generalizing c with
  | zero => exact .refl h
  | succ n ih =>
    cases htext : c.text with
    | nil =>
      have hcur : c.current = .endOfInput := by
        rw [h.current_eq_head, htext]
        rfl
      have hrest := ih h
      rw [htext, List.take_nil] at hrest
      rw [List.take_nil, advanceBy, advance_of_end hcur]
      exact hrest
    | cons ch text =>
      have hstep := passes_advance (h.current_of_text_cons htext)
      have htail : c.advance.text = text := by
        have := hstep.text_eq
        rw [htext] at this
        exact (List.cons.inj this).2.symm
      rw [List.take_succ_cons, ← htail]
      exact hstep.trans (ih hstep.started)

theorem text_advanceBy (h : c.Started) (n : Nat) : (c.advanceBy n).text = c.text.drop n := by
  have hsplit := (passes_advanceBy h n).text_eq
  rw [← List.append_right_inj (c.text.take n), ← hsplit, List.take_append_drop]

theorem passes_skipWhile (p : Char → Bool) (h : c.Started) :
    c.Passes (c.text.takeWhile p) (c.skipWhile p) := by
  fun_induction skipWhile p c with
  | case1 c ch hcur hlt hp ih =>
    have hstep := passes_advance hcur
    rw [hstep.text_eq, List.singleton_append, List.takeWhile_cons_of_pos hp]
    exact hstep.trans (ih hstep.started)
  | case2 c ch hcur hlt hp =>
    rw [text_of_scalar hcur, List.takeWhile_cons_of_neg hp]
    exact .refl h
  | case3 c hnot =>
    rw [h.text_of_not_scalar hnot]
    exact .refl h

theorem passes_skipAsciiWhile (p : Char → Bool) (h : c.Started) :
    c.Passes (c.text.takeWhile fun ch => isAscii ch && p ch) (c.skipAsciiWhile p) :=
  (passes_skipWhile _ h).of_plain_eq ((plain_skipAsciiWhile p c).trans (plain_skipWhile _ c).symm)

theorem passes_skipToLineEnd (h : c.Started) :
    c.Passes (c.text.takeWhile (!isLineTerminator ·)) c.skipToLineEnd :=
  (passes_skipWhile _ h).of_plain_eq ((plain_skipToLineEnd c).trans (plain_skipWhile _ c).symm)

theorem passes_startsWith (h : c.Started) (word : List Char) :
    c.Passes [] (c.startsWith word).2 := by
  cases word with
  | nil => exact .refl h
  | cons ch word =>
    simp only [startsWith]
    split
    · obtain ⟨hbytes, hcur, hindex⟩ := c.isFollowedBy_snd word 1
      exact (Passes.refl h).congr hbytes hcur hindex
    · exact .refl h

theorem passes_lookahead (h : c.Started) (n : Nat) : c.Passes [] (c.lookahead n).2 := by
  obtain ⟨hbytes, hcur, hindex⟩ := c.lookahead_collect_snd n 1
  exact (Passes.refl h).congr hbytes hcur hindex

/-- Looking ahead reads the text. -/
theorem Started.peek_eq (h : c.Started) (n : Nat) (hn : n ≤ UInt32.size) :
    (c.peek n).1 = CodePoint.ofChar? c.text[n]? := by
  cases n with
  | zero =>
    rw [← h.current_eq_head]
    simp [peek]
  | succ n => rw [c.peek_fst (c.not_overflows hn), h.upcoming_eq_tail, List.getElem?_tail]

end Cursor

end Lexis
