import Lexis.Proofs.Beside.Calls
import Lexis.Proofs.Scanner.Cacheless

/-!
# Lexers that differ in their settings

Twins are lexers that differ in what they have cached, in how much they cache and in how strict they
are. Their calls come to the same and leave twins behind: a scan skips the same whitespace and finds
the same opening, its scanner does not see the cache, and what is reported does not depend on it.
-/

namespace Lexis.Lexer

open CharClass

variable {l m : Lexer} {c d : Cursor} {brace : Token}

/-- The lexers differ in nothing but the cache of the cursor and in settings that tokens do not
depend on. -/
inductive Twins (l : Lexer) : Lexer → Prop
  | intro {config : LexerConfig} {d : Cursor}
      (keepComments : config.keepComments = l.config.keepComments)
      (plain : l.cursor.plain = d.plain) : Twins l { l with config, cursor := d }

/-- The calls come to the same result, and the lexers behind them are twins. -/
def SameCall {α : Type} (found found' : α × Lexer) : Prop :=
  found.1 = found'.1 ∧ Twins found.2 found'.2

theorem report_set (l : Lexer) (config : LexerConfig) (d : Cursor) (diagnostic : Diagnostic) :
    ({ l with config, cursor := d } : Lexer).report diagnostic =
      { l.report diagnostic with config, cursor := d } := by
  unfold report
  simp only
  split <;> rfl

namespace Twins

theorem report (h : Twins l m) (diagnostic : Diagnostic) :
    Twins (l.report diagnostic) (m.report diagnostic) := by
  cases h with
  | @intro config d hkeep hplain =>
    rw [report_set l config d]
    apply Twins.intro
    · rw [config_report]
      exact hkeep
    · rw [cursor_report]
      exact hplain

theorem phase_eq (h : Twins l m) : m.phase = l.phase := by
  cases h with
  | intro => rfl

theorem newlineBefore_eq (h : Twins l m) : m.newlineBefore = l.newlineBefore := by
  cases h with
  | intro => rfl

theorem keepComments_eq (h : Twins l m) : m.config.keepComments = l.config.keepComments := by
  cases h with
  | intro hkeep => exact hkeep

theorem plain_eq (h : Twins l m) : l.cursor.plain = m.cursor.plain := by
  cases h with
  | intro _ hplain => exact hplain

theorem setCursor (h : Twins l m) (hplain : c.plain = d.plain) :
    Twins { l with cursor := c } { m with cursor := d } := by
  cases h with
  | intro hkeep => exact .intro hkeep hplain

theorem setPhase (h : Twins l m) (phase : ScanPhase) :
    Twins { l with phase } { m with phase } := by
  cases h with
  | intro hkeep hplain => exact .intro hkeep hplain

theorem setNewlineBefore (h : Twins l m) (newline : Bool) :
    Twins { l with newlineBefore := newline } { m with newlineBefore := newline } := by
  cases h with
  | intro hkeep hplain => exact .intro hkeep hplain

theorem recordPragmas (h : Twins l m) (found : Pragmas) :
    Twins { l with pragmas := l.pragmas.update found }
      { m with pragmas := m.pragmas.update found } := by
  cases h with
  | intro hkeep hplain => exact .intro hkeep hplain

theorem abort (h : Twins l m) (start : Nat) (e : LexError) :
    Twins (l.abort start e) (m.abort start e) :=
  (h.setPhase .finished).report (e.diagnostic start)

theorem accept (h : Twins l m) (hplain : c.plain = d.plain) (lexeme : Lexeme) :
    Twins (l.accept lexeme c) (m.accept lexeme d) := by
  have hmoved := (h.setCursor hplain).recordPragmas lexeme.pragmas
  rw [accept_eq, accept_eq]
  cases lexeme.problem? with
  | none => exact hmoved
  | some problem => exact hmoved.report problem.diagnostic

end Twins

/-! ## Scans -/

theorem skipWhitespace_congr (newline : Bool) (h : c.plain = d.plain) :
    (skipWhitespace newline c).1 = (skipWhitespace newline d).1 ∧
      (skipWhitespace newline c).2.plain = (skipWhitespace newline d).2.plain := by
  fun_induction skipWhitespace newline c generalizing d with
  | case1 newline c ch hcur hlt _ hblank ih =>
    rw [skipWhitespace_def newline d, ← Cursor.current_eq_of_plain h, hcur]
    simp only [if_pos hblank]
    exact ih (Cursor.plain_skipAsciiWhile_eq _ (Cursor.plain_advance_eq h))
  | case2 newline c ch hcur hlt _ hblank hspace ih =>
    rw [skipWhitespace_def newline d, ← Cursor.current_eq_of_plain h, hcur]
    simp only [if_neg hblank, if_pos hspace]
    exact ih (Cursor.plain_advance_eq h)
  | case3 newline c ch hcur hlt _ hblank hspace =>
    rw [skipWhitespace_def newline d, ← Cursor.current_eq_of_plain h, hcur]
    simp only [if_neg hblank, if_neg hspace]
    exact ⟨trivial, h⟩
  | case4 newline c hnot =>
    rw [skipWhitespace_def newline d, ← Cursor.current_eq_of_plain h]
    split
    · rename_i ch hcur
      exact absurd hcur (hnot ch)
    · exact ⟨rfl, h⟩

theorem scanAt_congr {ch : Char} (h : c.plain = d.plain) (hcur : c.current = .scalar ch) :
    d.current = .scalar ch ∧ withoutCache (scanAt c ch) = withoutCache (scanAt d ch) := by
  refine ⟨(Cursor.current_eq_of_plain h).symm.trans hcur, ?_⟩
  rw [scanAt, scanAt, Cursor.lookahead_fst_congr 3 h]
  apply Opening.ignoresCache_scanner
  rw [Cursor.plain_lookahead, Cursor.plain_lookahead, h]

theorem tokenOf_congr (lexeme : Lexeme) (newline : Bool) (h : c.plain = d.plain)
    {c' d' : Cursor} (h' : c'.plain = d'.plain) :
    tokenOf lexeme c.index newline c' = tokenOf lexeme d.index newline d' := by
  rw [tokenOf, tokenOf, Cursor.index_eq_of_plain h, Cursor.index_eq_of_plain h']

namespace Twins

theorem skip {newline : Bool} (h : Twins l m)
    (hskip : skipWhitespace l.newlineBefore l.cursor = (newline, c)) :
    ∃ d, skipWhitespace m.newlineBefore m.cursor = (newline, d) ∧ c.plain = d.plain := by
  obtain ⟨hnewline, hplain⟩ := skipWhitespace_congr m.newlineBefore h.plain_eq
  rw [← h.newlineBefore_eq] at hskip
  rw [hskip] at hnewline hplain
  refine ⟨(skipWhitespace m.newlineBefore m.cursor).2, ?_, hplain⟩
  exact Prod.ext hnewline.symm rfl

theorem scan (h : Twins l m) : SameCall l.scan m.scan := by
  fun_induction Lexer.scan l generalizing m with
  | case1 l newline c hskip ch hcur e c' hscan =>
    obtain ⟨d, hskip', hplain⟩ := h.skip hskip
    obtain ⟨hcur', hsame⟩ := scanAt_congr hplain hcur
    rw [hscan] at hsame
    obtain ⟨d', hscan', hplain'⟩ := eq_error_of_withoutCache hsame
    rw [scan_of_error hskip' hcur' hscan', ← Cursor.index_eq_of_plain hplain]
    exact ⟨rfl, ((h.setCursor hplain').setNewlineBefore newline).abort c.index e⟩
  | case2 l newline c hskip ch hcur lexeme c' hscan hlt hcomment ih =>
    obtain ⟨d, hskip', hplain⟩ := h.skip hskip
    obtain ⟨hcur', hsame⟩ := scanAt_congr hplain hcur
    rw [hscan] at hsame
    obtain ⟨d', hscan', hplain'⟩ := eq_ok_of_withoutCache hsame
    rw [← h.keepComments_eq] at hcomment
    rw [scan_of_comment hskip' hcur' hscan' hcomment]
    exact ih ((h.accept hplain' lexeme).setNewlineBefore (newline || lexeme.crossesLine))
  | case3 l newline c hskip ch hcur lexeme c' hscan hlt hcomment =>
    obtain ⟨d, hskip', hplain⟩ := h.skip hskip
    obtain ⟨hcur', hsame⟩ := scanAt_congr hplain hcur
    rw [hscan] at hsame
    obtain ⟨d', hscan', hplain'⟩ := eq_ok_of_withoutCache hsame
    rw [← h.keepComments_eq] at hcomment
    rw [scan_of_token hskip' hcur' hscan' (eq_false_of_ne_true hcomment)]
    exact ⟨congrArg Except.ok (tokenOf_congr lexeme newline hplain hplain'),
      (h.accept hplain' lexeme).setNewlineBefore false⟩
  | case4 l newline c hskip hnot =>
    obtain ⟨d, hskip', hplain⟩ := h.skip hskip
    have hnot' : ∀ ch, d.current ≠ .scalar ch :=
      fun ch => Cursor.current_eq_of_plain hplain ▸ hnot ch
    rw [scan_of_not_scalar hskip' hnot']
    refine ⟨congrArg Except.ok (tokenOf_congr _ newline hplain hplain), ?_⟩
    exact ((h.setCursor hplain).setNewlineBefore false).setPhase .finished

theorem scanHashbang (h : Twins l m) : SameCall l.scanHashbang m.scanHashbang := by
  have hsame := Scanner.ignoresCache_hashbang l.cursor m.cursor h.plain_eq
  have hindex := Cursor.index_eq_of_plain h.plain_eq
  unfold Lexer.scanHashbang
  cases hscan : Scanner.hashbang l.cursor with
  | error e c =>
    rw [hscan] at hsame
    obtain ⟨d, hscan', hplain⟩ := eq_error_of_withoutCache hsame
    rw [hscan', ← hindex]
    exact ⟨rfl, (h.setCursor hplain).abort l.cursor.index e⟩
  | ok lexeme c =>
    rw [hscan] at hsame
    obtain ⟨d, hscan', hplain⟩ := eq_ok_of_withoutCache hsame
    rw [hscan', h.newlineBefore_eq]
    exact ⟨congrArg Except.ok (tokenOf_congr lexeme _ h.plain_eq hplain),
      (h.setCursor hplain).setNewlineBefore false⟩

theorem endToken_eq (h : Twins l m) : m.endToken = l.endToken := by
  cases h with
  | intro _ hplain =>
    rw [endToken, endToken, Cursor.isEnd, Cursor.isEnd, Cursor.current_eq_of_plain hplain,
      Cursor.index_eq_of_plain hplain]

theorem begun (h : Twins l m) : Twins l.begun m.begun := by
  have hplain : (l.cursor.startsWith ['#', '!']).2.plain =
      (m.cursor.startsWith ['#', '!']).2.plain := by
    rw [Cursor.plain_startsWith, Cursor.plain_startsWith, h.plain_eq]
  exact (h.setCursor hplain).setPhase .scanning

theorem next (h : Twins l m) : SameCall l.next m.next := by
  cases hphase : l.phase with
  | finished =>
    have hphase' := h.phase_eq.trans hphase
    rw [next_of_finished hphase, next_of_finished hphase', ← h.endToken_eq]
    exact ⟨rfl, h⟩
  | scanning =>
    rw [next_of_scanning hphase, next_of_scanning (h.phase_eq.trans hphase)]
    exact h.scan
  | start =>
    rw [next_of_start hphase, next_of_start (h.phase_eq.trans hphase),
      ← Cursor.startsWith_fst_congr _ h.plain_eq]
    split
    · exact h.begun.scanHashbang
    · exact h.begun.scan

theorem behindBrace (h : Twins l m) (hbrace : BehindBrace brace l) : BehindBrace brace m := by
  cases h with
  | intro _ hplain =>
    have hstop := hbrace.stop_eq.trans (Cursor.index_eq_of_plain hplain)
    exact ⟨hbrace.kind_eq, hstop, hbrace.text, hbrace.reported⟩

theorem rescan (h : Twins l m) (hphase : l.phase = .scanning) (hbrace : BehindBrace brace l) :
    SameCall (l.rescan brace) (m.rescan brace) := by
  have hsame := Scanner.ignoresCache_templateContinuation brace.offset { multiLine := true }
    l.cursor m.cursor h.plain_eq
  have hbrace' := h.behindBrace hbrace
  rw [rescan_of_brace hphase hbrace.kind_eq hbrace.stop_eq,
    rescan_of_brace (h.phase_eq.trans hphase) hbrace'.kind_eq hbrace'.stop_eq]
  cases hscan : Scanner.templateContinuation brace.offset { multiLine := true } l.cursor with
  | error e c =>
    rw [hscan] at hsame
    obtain ⟨d, hscan', hplain⟩ := eq_error_of_withoutCache hsame
    rw [hscan']
    exact ⟨rfl, (h.setCursor hplain).abort brace.offset e⟩
  | ok lexeme c =>
    rw [hscan] at hsame
    obtain ⟨d, hscan', hplain⟩ := eq_ok_of_withoutCache hsame
    rw [hscan']
    refine ⟨?_, h.setCursor hplain⟩
    simp only [tokenOf, Cursor.index_eq_of_plain hplain]

end Twins

end Lexis.Lexer
