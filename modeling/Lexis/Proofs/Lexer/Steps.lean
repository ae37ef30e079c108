import Lexis.LexedFile
import Lexis.Proofs.Lexer.Calls
import Lexis.Proofs.Scanner.Passed
import Lexis.Proofs.Utf8.Parts

/-!
# Steps of a scan

Whitespace is skipped as one run, and what stands behind it settles how the scan goes on: with an
error, behind an unwanted comment, with a token, or at the end.
-/

namespace Lexis.Lexer

open CharClass

variable {l : Lexer} {c c' : Cursor} {ch : Char} {lexeme : Lexeme} {newline : Bool} {start : Nat}

/-! ## Whitespace -/

/-- Whitespace is skipped as far as it goes, and its line terminators are noticed. -/
theorem skipWhitespace_eq (newline : Bool) (h : c.Started) :
    c.Passes (c.text.takeWhile isWhitespace) (skipWhitespace newline c).2 ∧
      (skipWhitespace newline c).1 =
        (newline || (c.text.takeWhile isWhitespace).any isLineTerminator) := by
  fun_induction skipWhitespace newline c with
  | case1 newline c ch hcur hlt _ hblank ih =>
    have hstep := Cursor.passes_advance hcur
    have hrun := hstep.trans
      (Cursor.passes_skipAsciiWhile (fun ch => ch == ' ' || ch == '\t') hstep.started)
    obtain ⟨hpass, hnewline⟩ := ih hrun.started
    have hspace : ∀ d, (d == ' ' || d == '\t') = true →
        isWhitespace d = true ∧ isLineTerminator d = false := by
      intro d hd
      rw [Bool.or_eq_true, beq_iff_eq, beq_iff_eq] at hd
      obtain rfl | rfl := hd <;> decide
    have hblanks : ∀ d ∈ [ch] ++ c.advance.text.takeWhile fun d =>
        isAscii d && (d == ' ' || d == '\t'),
        isWhitespace d = true ∧ isLineTerminator d = false := by
      intro d hd
      rw [List.mem_append, List.mem_singleton] at hd
      obtain rfl | hd := hd
      · exact hspace d (by simpa using hblank)
      · have hclass := List.all_eq_true.1 List.all_takeWhile d hd
        exact hspace d (Bool.and_eq_true_iff.1 hclass).2
    have hany : ([ch] ++ c.advance.text.takeWhile fun d =>
        isAscii d && (d == ' ' || d == '\t')).any isLineTerminator = false := by
      rw [List.any_eq_false]
      intro d hd
      exact ne_true_of_eq_false (hblanks d hd).2
    rw [hrun.text_eq, List.takeWhile_append_of_pos fun d hd => (hblanks d hd).1]
    refine ⟨hrun.trans hpass, ?_⟩
    rw [hnewline, List.any_append, hany, Bool.false_or]
  | case2 newline c ch hcur hlt _ hblank hspace ih =>
    have hstep := Cursor.passes_advance hcur
    obtain ⟨hpass, hnewline⟩ := ih hstep.started
    rw [hstep.text_eq, List.singleton_append, List.takeWhile_cons_of_pos hspace]
    refine ⟨hstep.trans hpass, ?_⟩
    rw [hnewline, List.any_cons, Bool.or_assoc]
  | case3 newline c ch hcur hlt _ hblank hspace =>
    rw [Cursor.text_of_scalar hcur, List.takeWhile_cons_of_neg hspace]
    exact ⟨.refl h, (Bool.or_false newline).symm⟩
  | case4 newline c hnot =>
    rw [h.text_of_not_scalar hnot]
    exact ⟨.refl h, (Bool.or_false newline).symm⟩

/-! ## How a scan goes on -/

section Scan

variable (hskip : skipWhitespace l.newlineBefore l.cursor = (newline, c))

include hskip

theorem scan_eq : l.scan = match c.current with
    | .scalar ch => match scanAt c ch with
      | .error e c' =>
        (.error e, { l with cursor := c', newlineBefore := newline }.abort c.index e)
      | .ok lexeme c' =>
        if lexeme.kind.isComment && !l.config.keepComments then
          { l.accept lexeme c' with newlineBefore := newline || lexeme.crossesLine }.scan
        else
          (.ok (tokenOf lexeme c.index newline c'),
            { l.accept lexeme c' with newlineBefore := false })
    | _ =>
      (.ok (tokenOf { kind := .endOfInput } c.index newline c),
        { l with cursor := c, newlineBefore := false, phase := .finished }) := by
  rw [scan]
  split
  rename_i newline' c₁ hskip'
  cases hskip.symm.trans hskip'
  split
  · rename_i ch hcur
    split
    · rename_i hscan
      simp only [hcur, hscan]
    · rename_i hscan
      simp only [hcur, hscan]
  · split
    · rename_i hnot _ ch hcur
      exact absurd hcur (hnot ch)
    · rfl

theorem scan_of_error {e : LexError} (hcur : c.current = .scalar ch)
    (hscan : scanAt c ch = .error e c') :
    l.scan = (.error e, { l with cursor := c', newlineBefore := newline }.abort c.index e) := by
  simp only [scan_eq hskip, hcur, hscan]

theorem scan_of_comment (hcur : c.current = .scalar ch) (hscan : scanAt c ch = .ok lexeme c')
    (hcomment : (lexeme.kind.isComment && !l.config.keepComments) = true) :
    l.scan = { l.accept lexeme c' with newlineBefore := newline || lexeme.crossesLine }.scan := by
  simp only [scan_eq hskip, hcur, hscan, hcomment, if_true]

theorem scan_of_token (hcur : c.current = .scalar ch) (hscan : scanAt c ch = .ok lexeme c')
    (hcomment : (lexeme.kind.isComment && !l.config.keepComments) = false) :
    l.scan = (.ok (tokenOf lexeme c.index newline c'),
      { l.accept lexeme c' with newlineBefore := false }) := by
  simp only [scan_eq hskip, hcur, hscan, hcomment, Bool.false_eq_true, if_false]

theorem scan_of_not_scalar (hnot : ∀ ch, c.current ≠ .scalar ch) :
    l.scan = (.ok (tokenOf { kind := .endOfInput } c.index newline c),
      { l with cursor := c, newlineBefore := false, phase := .finished }) := by
  rw [scan_eq hskip]
  split
  · rename_i ch hcur
    exact absurd hcur (hnot ch)
  · rfl

end Scan

/-- A closing brace is a token of its own. -/
theorem scanAt_closeBrace {text : List Char} (h : c.Started) (htext : c.text = '\x7d' :: text) :
    ∃ c', scanAt c '\x7d' = .ok { kind := .operator .closeBrace } c' ∧
      c.Passes ['\x7d'] c' := by
  have hahead := Cursor.passes_lookahead h 3
  have hbrace : ['\x7d'] <+: (c.lookahead 3).2.text := by
    rw [hahead.text_eq_of_nil, htext]
    exact ⟨text, rfl⟩
  have hopening : ∀ ahead, Opening.of '\x7d' ahead = .operator .closeBrace := fun _ => rfl
  refine ⟨_, ?_, hahead.trans (Cursor.passes_advanceBy_length hahead.started hbrace)⟩
  rw [scanAt, hopening]
  rfl

theorem next_of_scanning (h : l.phase = .scanning) : l.next = l.scan := by
  rw [next, h]

/-! ## Lexers behind a lexeme or an error -/

theorem pragmas_report (l : Lexer) (d : Diagnostic) : (l.report d).pragmas = l.pragmas := by
  unfold report
  split <;> rfl

theorem source_report (l : Lexer) (d : Diagnostic) : (l.report d).source = l.source := by
  unfold report
  split <;> rfl

theorem config_report (l : Lexer) (d : Diagnostic) : (l.report d).config = l.config := by
  unfold report
  split <;> rfl

theorem phase_report (l : Lexer) (d : Diagnostic) : (l.report d).phase = l.phase := by
  unfold report
  split <;> rfl

theorem accept_eq (l : Lexer) (lexeme : Lexeme) (c : Cursor) :
    l.accept lexeme c = match lexeme.problem? with
      | some problem =>
        { l with cursor := c, pragmas := l.pragmas.update lexeme.pragmas }.report problem.diagnostic
      | none => { l with cursor := c, pragmas := l.pragmas.update lexeme.pragmas } := rfl

theorem pragmas_accept (l : Lexer) (lexeme : Lexeme) (c : Cursor) :
    (l.accept lexeme c).pragmas = l.pragmas.update lexeme.pragmas := by
  rw [accept_eq]
  split
  · rw [pragmas_report]
  · rfl

theorem source_accept (l : Lexer) (lexeme : Lexeme) (c : Cursor) :
    (l.accept lexeme c).source = l.source := by
  rw [accept_eq]
  split
  · rw [source_report]
  · rfl

theorem config_accept (l : Lexer) (lexeme : Lexeme) (c : Cursor) :
    (l.accept lexeme c).config = l.config := by
  rw [accept_eq]
  split
  · rw [config_report]
  · rfl

theorem phase_accept (l : Lexer) (lexeme : Lexeme) (c : Cursor) :
    (l.accept lexeme c).phase = l.phase := by
  rw [accept_eq]
  split
  · rw [phase_report]
  · rfl

/-- The diagnostic of the problem of a lexeme, if it has one. -/
def problems (lexeme : Lexeme) : List Diagnostic :=
  (lexeme.problem?.map Problem.diagnostic).toList

theorem diagnostics_accept (htracks : l.tracker.Tracks l.source)
    (hreported : l.ReportedBefore start) (hfits : lexeme.Fits start c.index) :
    (l.accept lexeme c).diagnostics.toList =
      l.diagnostics.toList ++ (problems lexeme).map (Diagnostic.located l.source) := by
  rw [accept_eq, problems]
  have hspan := hfits.problem
  cases hproblem : lexeme.problem? with
  | none => exact (List.append_nil _).symm
  | some problem =>
    rw [hproblem] at hspan
    let moved : Lexer := { l with cursor := c, pragmas := l.pragmas.update lexeme.pragmas }
    obtain ⟨t, -, hreport⟩ := report_eq (l := moved) (d := problem.diagnostic) htracks
      (hreported.mono hspan.2.1)
    show (moved.report problem.diagnostic).diagnostics.toList = _
    rw [hreport, Array.toList_push]
    rfl

theorem diagnostics_abort {e : LexError} (htracks : l.tracker.Tracks l.source)
    (hreported : l.ReportedBefore start)
    (hlies : e.LiesIn start (Utf8.textFrom l.source.contents start)) :
    (l.abort start e).phase = .finished ∧ (l.abort start e).diagnostics.toList =
      l.diagnostics.toList ++ [(e.diagnostic start).located l.source] := by
  have hcall := call_abort htracks rfl rfl hreported hlies
  generalize l.abort start e = l' at hcall
  cases hcall with
  | abort hfinished _ hdiagnostics => exact ⟨hfinished, by rw [hdiagnostics, Array.toList_push]⟩

/-! ## The beginning of a file -/

/-- The lexer that has seen that its file does not begin like a script. -/
def begun (l : Lexer) : Lexer :=
  { l with
    cursor := (l.cursor.startsWith ['#', '!']).2
    phase := .scanning }

theorem next_of_start (h : l.phase = .start) :
    l.next = if (l.cursor.startsWith ['#', '!']).1 then l.begun.scanHashbang else l.begun.scan := by
  simp only [next, h]
  rfl

theorem passes_begun (h : l.Ready) : l.cursor.Passes [] l.begun.cursor :=
  Cursor.passes_startsWith h.cursor.started ['#', '!']

theorem ready_begun (h : l.Ready) : l.begun.Ready where
  cursor := h.cursor.of_passes (passes_begun h)
  tracks := h.tracks
  reported := (passes_begun h).index_eq_of_nil ▸ h.reported

theorem text_ofSource (source : Source) (config : LexerConfig) :
    (Lexer.ofSource source config).cursor.text = Utf8.textFrom source.contents 0 := by
  obtain ⟨hat, hindex⟩ := At.ofSource source config.lookaheadCapacity
  exact hat.text_eq.trans (congrArg (Utf8.textFrom source.contents) hindex)

theorem index_begun (source : Source) (config : LexerConfig) :
    (Lexer.ofSource source config).begun.cursor.index = 0 :=
  (passes_begun (ready_ofSource source config)).index_eq_of_nil.trans
    (At.ofSource source config.lookaheadCapacity).2

theorem text_begun (source : Source) (config : LexerConfig) :
    (Lexer.ofSource source config).begun.cursor.text = Utf8.textFrom source.contents 0 :=
  (passes_begun (ready_ofSource source config)).text_eq_of_nil.trans (text_ofSource source config)

theorem next_ofSource {source : Source} (config : LexerConfig)
    (hplain : ¬ ['#', '!'] <+: Utf8.textFrom source.contents 0) :
    (Lexer.ofSource source config).next = (Lexer.ofSource source config).begun.next := by
  have hscript : ((Lexer.ofSource source config).cursor.startsWith ['#', '!']).1 = false := by
    rw [Cursor.startsWith_fst (ready_ofSource source config).cursor.started, text_ofSource]
    exact eq_false_of_ne_true (mt List.isPrefixOf_iff_prefix.1 hplain)
  show (Lexer.ofSource source config).first = _
  simp only [first, hscript]
  rfl

/-- The first line of a script is its first token. -/
theorem next_ofSource_of_script {source : Source} (config : LexerConfig)
    (hscript : ['#', '!'] <+: Utf8.textFrom source.contents 0) :
    ∃ c, (Lexer.ofSource source config).begun.cursor.Passes
        ((Utf8.textFrom source.contents 0).takeWhile (!isLineTerminator ·)) c ∧
      (Lexer.ofSource source config).next =
        (.ok (tokenOf { kind := .hashbang } 0 false c),
          { (Lexer.ofSource source config).begun with cursor := c }) := by
  have hready := ready_ofSource source config
  have hahead := passes_begun hready
  obtain ⟨rest, hrest⟩ := hscript
  have htext : (Lexer.ofSource source config).begun.cursor.text = '#' :: ('!' :: rest) := by
    rw [text_begun, ← hrest]
    rfl
  have hmark : (Lexer.ofSource source config).begun.cursor.Passes ['#'] _ :=
    Cursor.passes_advanceBy_length hahead.started ⟨_, htext.symm⟩
  have hline := hmark.trans (Cursor.passes_skipToLineEnd hmark.started)
  rw [hmark.text_eq_of_append htext] at hline
  rw [← hrest]
  refine ⟨_, hline, ?_⟩
  have his : ((Lexer.ofSource source config).cursor.startsWith ['#', '!']).1 = true := by
    rw [Cursor.startsWith_fst hready.cursor.started, text_ofSource, ← hrest]
    rfl
  show (Lexer.ofSource source config).first = _
  simp only [first, his, if_true]
  show (_, _) = _
  rw [← index_begun source config]
  rfl

/-! ## The rest of a file -/

theorem rest_eq (l : Lexer) : l.rest = match l.next with
    | (.error e, l') => ([], some e, l')
    | (.ok t, l') =>
      if l'.isFinished then ([t], none, l') else (t :: l'.rest.1, l'.rest.2) := by
  rw [rest]
  split
  · rename_i hnext
    simp only [hnext]
  · rename_i hnext
    simp only [hnext]
    split <;> rfl

/-! ## Between calls -/

/-- Where no text is left, the source ends. -/
theorem Ready.index_eq_size (h : l.Ready) (htext : l.cursor.text = [])
    (hvalid : l.source.contents.IsValidUTF8) : l.cursor.index = l.source.size := by
  rw [h.cursor.text_eq] at htext
  exact h.cursor.boundary.eq_size htext hvalid

theorem isFinished_eq (l : Lexer) : l.isFinished = true ↔ l.phase = .finished := beq_iff_eq

theorem eq_of_mapError {found found' : Except LexError Token × Lexer}
    (h : (found.1.mapError Stop.fatal, found.2) = (found'.1.mapError Stop.fatal, found'.2)) :
    found = found' := by
  obtain ⟨result, l⟩ := found
  obtain ⟨result', l'⟩ := found'
  cases result <;> cases result' <;> cases h <;> rfl

theorem newlineBefore_scan (l : Lexer) :
    l.scan.2.phase = .scanning → l.scan.2.newlineBefore = false := by
  fun_induction scan l with
  | case1 l newline c hskip ch hcur e c' hscan =>
    intro hrunning
    exact absurd (phase_report ..) (phase_ne_finished hrunning)
  | case2 l newline c hskip ch hcur lexeme c' hscan hlt hcomment ih => exact ih
  | case3 => exact fun _ => rfl
  | case4 => exact fun _ => rfl

theorem newlineBefore_next (l : Lexer) :
    l.next.2.phase = .scanning → l.next.2.newlineBefore = false := by
  unfold next
  split
  · rename_i hfinished
    exact fun hrunning => absurd hfinished (phase_ne_finished hrunning)
  · exact newlineBefore_scan l
  · unfold first
    simp only
    split
    · exact fun _ => rfl
    · exact newlineBefore_scan _

end Lexis.Lexer
