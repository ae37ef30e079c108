import Lexis.Lexer.Comment
import Lexis.Lexer.Name
import Lexis.Proofs.Scanner.Outcome

/-!
# Names, operators and comments are recognised

None of these scanners fails, but for a block comment that is not closed, whose error stands at the
end of the text.
-/

namespace Lexis

namespace Scanner

variable {c : Cursor}

theorem moves_identifierRest (h : c.Started) : Moves identifierRest c := by
  have hascii := Cursor.passes_skipAsciiWhile CharClass.isAsciiIdentContinue h
  unfold Moves identifierRest
  simp only [ends_bind, ends_move, ends_current]
  split
  · have hrest := Cursor.passes_skipWhile CharClass.isIdentContinue hascii.started
    exact ends_move.2 ⟨_, hascii.trans hrest⟩
  · exact ends_pure.2 ⟨_, hascii⟩

theorem ends_keywordFrom? {start : Nat} {post : Option Keyword → Cursor → Prop}
    {fault : LexError → Prop} :
    Ends (keywordFrom? start) c post fault ↔
      post ((String.fromUTF8? ((Span.mk start c.index).slice c.bytes)).bind Keyword.ofSpelling?) c :=
  Iff.rfl

theorem recognizes_name (h : c.Started) : Recognizes name c := by
  have hfirst := Cursor.passes_advanceBy h 1
  unfold Recognizes name
  simp only [ends_bind, ends_index, ends_skip, ends_keywordFrom?]
  apply (moves_identifierRest hfirst.started).mono
  intro _ c' passed hpassed
  split
  · exact ends_pure.2 ⟨⟨_, hfirst.trans hpassed⟩, Lexeme.fits_of_ne nofun nofun rfl⟩
  · exact ends_pure.2 ⟨⟨_, hfirst.trans hpassed⟩, Lexeme.fits_of_ne nofun nofun rfl⟩

theorem recognizes_escapedName (h : c.Started) : Recognizes escapedName c := by
  have hmark := Cursor.passes_advanceBy h 2
  have hfirst := Cursor.passes_advanceBy hmark.started 1
  unfold Recognizes escapedName
  simp only [ends_bind, ends_index, ends_skip, ends_keywordFrom?]
  apply (moves_identifierRest hfirst.started).mono
  intro _ c' passed hpassed
  have hall := (hmark.trans hfirst).trans hpassed
  split
  · exact ends_pure.2 ⟨⟨_, hall⟩, Lexeme.fits_of_ne nofun nofun rfl⟩
  · exact ends_pure.2 ⟨⟨_, hall⟩, Lexeme.fits_of_ne nofun nofun rfl⟩

theorem recognizes_operator (h : c.Started) (op : Operator) : Recognizes (operator op) c := by
  unfold Recognizes operator
  simp only [ends_bind, ends_skip, ends_pure]
  exact ⟨⟨_, Cursor.passes_advanceBy h _⟩, Lexeme.fits_of_ne nofun nofun rfl⟩

theorem recognizes_unexpected {ch : Char} (h : c.current = .scalar ch) (d : Char) :
    Recognizes (unexpected d) c := by
  have hstep := Cursor.passes_advance h
  have hlt : c.index < c.advance.index := by
    have := ch.utf8Size_pos
    rw [hstep.index_eq, Utf8.size_cons]
    omega
  unfold Recognizes unexpected
  simp only [ends_bind, ends_index, ends_skip, ends_pure]
  exact ⟨⟨_, hstep⟩, nofun, rfl, Nat.le_refl _, hlt, Nat.le_refl _⟩

/-! ## Comments -/

theorem recognizes_lineComment (h : c.Started) (doc : Bool) : Recognizes (lineComment doc) c := by
  have hopening := Cursor.passes_advanceBy h 2
  have hline := Cursor.passes_skipToLineEnd hopening.started
  unfold Recognizes lineComment
  simp only [ends_bind, ends_index, ends_skip, ends_move, ends_get, ends_pure]
  exact ⟨⟨_, hopening.trans hline⟩, Lexeme.fits_of_ne nofun nofun rfl⟩

/-- A comment has been closed behind the cursor, or the text has ended. -/
def ClosedBehind (c : Cursor) : EStateM.Result LexError Cursor Bool → Prop
  | .ok _ c' => ∃ passed, c.Passes passed c'
  | .error e _ => e = .atOffset .unterminatedBlockComment (c.index + Utf8.size c.text)

theorem ClosedBehind.of_passes {c' : Cursor} {before : List Char}
    {result : EStateM.Result LexError Cursor Bool} (hpass : c.Passes before c')
    (h : ClosedBehind c' result) : ClosedBehind c result := by
  cases result with
  | ok crossed c'' =>
    obtain ⟨passed, hpassed⟩ := h
    exact ⟨_, hpass.trans hpassed⟩
  | error e c'' =>
    rw [ClosedBehind, hpass.stop_eq] at h
    exact h

theorem closedBehind_blockCommentRest (h : c.Started) (depth : Nat) (crossed : Bool) :
    ClosedBehind c (blockCommentRest depth crossed c) := by
  fun_induction blockCommentRest depth crossed c with
  | case1 depth crossed c ch hcur next c' hpeek hlt _ _ hopen ih =>
    have hahead : c.Passes [] c' := by simpa [hpeek] using Cursor.passes_peek h 1
    have hstep := hahead.trans (Cursor.passes_advanceBy hahead.started 2)
    exact .of_passes hstep (ih hstep.started)
  | case2 crossed c ch hcur next c' hpeek hlt _ _ hopen hclose =>
    have hahead : c.Passes [] c' := by simpa [hpeek] using Cursor.passes_peek h 1
    exact ⟨_, hahead.trans (Cursor.passes_advanceBy hahead.started 2)⟩
  | case3 crossed c ch hcur next c' hpeek hlt _ _ hopen hclose depth ih =>
    have hahead : c.Passes [] c' := by simpa [hpeek] using Cursor.passes_peek h 1
    have hstep := hahead.trans (Cursor.passes_advanceBy hahead.started 2)
    exact .of_passes hstep (ih hstep.started)
  | case4 depth crossed c ch hcur next c' hpeek hlt _ _ hopen hclose ih =>
    have hahead : c.Passes [] c' := by simpa [hpeek] using Cursor.passes_peek h 1
    have hstep := hahead.trans (Cursor.passes_advanceBy hahead.started 1)
    exact .of_passes hstep (ih hstep.started)
  | case5 depth crossed c hnot =>
    rw [ClosedBehind, h.text_of_not_scalar hnot]
    rfl

theorem recognizes_blockComment {rest : List Char} (h : c.Started)
    (htext : c.text = '/' :: '*' :: rest) (legal : Bool) : Recognizes (blockComment legal) c := by
  have hopening := Cursor.passes_advanceBy h 2
  have hclosed := closedBehind_blockCommentRest hopening.started 0 false
  unfold Recognizes blockComment
  simp only [ends_bind, ends_index, ends_skip]
  apply ends_bind.2
  unfold Ends
  cases hresult : blockCommentRest 0 false (c.advanceBy 2) with
  | ok crossed c' =>
    rw [hresult] at hclosed
    obtain ⟨passed, hpassed⟩ := hclosed
    exact ⟨⟨_, hopening.trans hpassed⟩, Lexeme.fits_of_ne nofun nofun rfl⟩
  | error e c' =>
    rw [hresult, ClosedBehind, hopening.stop_eq] at hclosed
    rw [hclosed]
    refine ⟨c.text, [], [], by simp, rfl, ?_, rfl, rfl⟩
    rw [htext]
    exact ⟨rest, rfl⟩

end Scanner

end Lexis
