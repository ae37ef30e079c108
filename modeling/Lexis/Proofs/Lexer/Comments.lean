import Lexis.Proofs.Lexer.Outcomes
import Lexis.Proofs.Lexer.Reached
import Lexis.Proofs.Lexer.Single
import Lexis.Proofs.Scanner.Nesting

/-!
# Block comments

Where a token could begin and a block comment is opened, a call takes the nested comment that stands
there, and if there is none it fails (`Lexer.Reached.takesComment_iff`). A place in the gap before a
token is reached by the call that skips the gap: the call goes on as if the lexer stood there
(`Lexer.GoesOnAt`).
-/

namespace Lexis

open CharClass

variable {bytes : ByteArray} {keepComments : Bool} {start middle stop : Nat} {ch : Char}

namespace Lexer

/-- The next call of `l` is the one of `m`, which stands at the offset. -/
structure GoesOnAt (l m : Lexer) (offset : Nat) : Prop where
  ready : m.Ready
  running : m.phase = .scanning
  source_eq : m.source = l.source
  config_eq : m.config = l.config
  diagnostics_eq : m.diagnostics = l.diagnostics
  index_eq : m.cursor.index = offset
  next_eq : l.next = m.next

variable {l m m' : Lexer} {c c' : Cursor} {newline : Bool}

theorem GoesOnAt.trans (h : GoesOnAt l m middle) (h' : GoesOnAt m m' stop) :
    GoesOnAt l m' stop where
  ready := h'.ready
  running := h'.running
  source_eq := h'.source_eq.trans h.source_eq
  config_eq := h'.config_eq.trans h.config_eq
  diagnostics_eq := h'.diagnostics_eq.trans h.diagnostics_eq
  index_eq := h'.index_eq
  next_eq := h.next_eq.trans h'.next_eq

/-! ## Going on behind whitespace -/

theorem report_newlineBefore (l : Lexer) (newline : Bool) (d : Diagnostic) :
    ({ l with newlineBefore := newline } : Lexer).report d =
      { l.report d with newlineBefore := newline } := by
  unfold report
  simp only
  split <;> rfl

theorem accept_newlineBefore (l : Lexer) (newline : Bool) (lexeme : Lexeme) (c : Cursor) :
    ({ l with newlineBefore := newline } : Lexer).accept lexeme c =
      { l.accept lexeme c with newlineBefore := newline } := by
  rw [accept_eq, accept_eq]
  split
  · exact report_newlineBefore { l with cursor := c, pragmas := l.pragmas.update lexeme.pragmas }
      newline _
  · rfl

/-- Behind whitespace there is no whitespace. -/
theorem skipWhitespace_behind (hstart : c.Started)
    (hskip : skipWhitespace l.newlineBefore c = (newline, c')) :
    skipWhitespace newline c' = (newline, c') := by
  obtain ⟨hpass, -⟩ := skipWhitespace_eq l.newlineBefore hstart
  rw [hskip] at hpass
  cases htext : c'.text with
  | nil => exact skipWhitespace_of_end newline htext
  | cons d text =>
    have hcur := hpass.started.current_of_text_cons htext
    exact skipWhitespace_of_not newline hcur (not_isWhitespace_of_skipWhitespace hskip hcur)

theorem scan_behind (hstart : l.cursor.Started)
    (hskip : skipWhitespace l.newlineBefore l.cursor = (newline, c)) :
    l.scan = ({ l with cursor := c, newlineBefore := newline } : Lexer).scan := by
  let m : Lexer := { l with cursor := c, newlineBefore := newline }
  have hskip' : skipWhitespace m.newlineBefore m.cursor = (newline, c) :=
    skipWhitespace_behind hstart hskip
  have haccept : ∀ lexeme c', m.accept lexeme c' =
      { l.accept lexeme c' with newlineBefore := newline } :=
    fun lexeme c' => accept_newlineBefore l newline lexeme c'
  show l.scan = m.scan
  rw [scan_eq hskip, scan_eq hskip']
  simp only [haccept]
  rfl

theorem goesOnAt_blank {blank : List Char} (h : l.Ready) (hphase : l.phase = .scanning)
    (hblank : Utf8.Spells l.source.contents l.cursor.index middle blank)
    (hall : ∀ ch ∈ blank, isWhitespace ch = true)
    (hch : Utf8.charAt? l.source.contents middle = some ch) (hnot : isWhitespace ch = false) :
    ∃ m, GoesOnAt l m middle := by
  have htext : l.cursor.text = blank ++ Utf8.textFrom l.source.contents middle :=
    h.cursor.text_eq.trans hblank.textFrom_eq
  have hrun : l.cursor.text.takeWhile isWhitespace = blank := by
    rw [htext, List.takeWhile_append_of_pos hall, Utf8.textFrom_of_some hch,
      List.takeWhile_cons_of_neg (ne_true_of_eq_false hnot), List.append_nil]
  obtain ⟨hpass, -⟩ := skipWhitespace_eq l.newlineBefore h.cursor.started
  cases hskip : skipWhitespace l.newlineBefore l.cursor with
  | mk newline c =>
    rw [hrun, hskip] at hpass
    have hnext : l.next = ({ l with cursor := c, newlineBefore := newline } : Lexer).next := by
      rw [next_of_scanning hphase, scan_behind h.cursor.started hskip]
      exact (next_of_scanning (l := { l with cursor := c, newlineBefore := newline }) hphase).symm
    have hindex : c.index = middle := by rw [hpass.index_eq, ← hblank.stop_eq]
    have hready : ({ l with cursor := c, newlineBefore := newline } : Lexer).Ready :=
      ⟨h.cursor.of_passes hpass, h.tracks, h.reported.mono (hindex ▸ hblank.start_le)⟩
    exact ⟨_, hready, hphase, rfl, rfl, rfl, hindex, hnext⟩

/-! ## Going on behind comments -/

/-- A scan that begins where a comment stands finds it. -/
theorem scanAt_of_commentAt (h : CommentAt bytes start stop) (hbytes : c.bytes = bytes)
    (hindex : c.index = start) (hstart : c.Started) : ∃ lexeme c',
      c.current = .scalar '/' ∧ scanAt c '/' = .ok lexeme c' ∧ lexeme.kind.isComment = true ∧
      c'.index = stop := by
  have hcur : c.current = .scalar '/' := by
    rw [hstart.current_eq, hbytes, hindex, CodePoint.readAt_of_some h.charAt?]
  have hslash := h.charAt?
  obtain ⟨d, ch, lexeme, d', rfl, rfl, hcur', hscan, hkind, rfl⟩ := h
  obtain rfl := Option.some.inj (hslash.symm.trans (charAt?_of_current hcur'))
  obtain ⟨lexeme', c', hscan', hkind', hstop⟩ := scanAt_agree hbytes hindex hcur' hcur hscan
  exact ⟨lexeme', c', hcur, hscan', hkind' ▸ hkind, hstop⟩

theorem goesOnAt_comment (h : l.Ready) (hphase : l.phase = .scanning)
    (hkeep : l.config.keepComments = false)
    (hcomment : CommentAt l.source.contents l.cursor.index stop) : ∃ m, GoesOnAt l m stop := by
  obtain ⟨lexeme, c', hcur, hscan, hkind, hstop⟩ :=
    scanAt_of_commentAt hcomment h.cursor.bytes_eq rfl h.cursor.started
  obtain ⟨⟨passed, -, hpassed⟩, hfits⟩ := scanAt_ok hcur hscan
  have hskip : skipWhitespace l.newlineBefore l.cursor = (l.newlineBefore, l.cursor) :=
    skipWhitespace_of_not _ hcur (by decide)
  let m : Lexer := { l with
    cursor := c'
    pragmas := l.pragmas.update lexeme.pragmas
    newlineBefore := l.newlineBefore || lexeme.crossesLine }
  have hnext : l.next = m.next := by
    rw [next_of_scanning hphase, next_of_scanning (l := m) hphase,
      scan_of_comment hskip hcur hscan (by rw [hkind, hkeep]; rfl),
      accept_of_none (problem?_eq_none_of_isComment hfits hkind)]
  have hle := (h.cursor.spells hpassed).start_le
  exact ⟨m, ⟨h.cursor.of_passes hpassed, h.tracks, h.reported.mono hle⟩, hphase, rfl, rfl, rfl,
    hstop, hnext⟩

/-- Behind whitespace, the gap goes on up to a place where neither ends. -/
theorem exists_goesOnAt_gap (hgap : Gap bytes keepComments middle start)
    (hch : Utf8.charAt? bytes start = some ch) (hnot : isWhitespace ch = false)
    {blank : List Char} (h : l.Ready) (hphase : l.phase = .scanning)
    (hbytes : l.source.contents = bytes) (hkeep : l.config.keepComments = keepComments)
    (hblank : Utf8.Spells bytes l.cursor.index middle blank)
    (hall : ∀ ch ∈ blank, isWhitespace ch = true) : ∃ m, GoesOnAt l m start := by
  induction hgap generalizing l blank with
  | refl => exact goesOnAt_blank h hphase (hbytes ▸ hblank) hall (hbytes ▸ hch) hnot
  | @whitespace middle start d hd hspace _ ih =>
    refine ih hch h hphase hbytes hkeep
      (hblank.append (Utf8.Spells.singleton_iff.2 ⟨hd, rfl⟩)) ?_
    intro e he
    obtain he | he := List.mem_append.1 he
    · exact hall e he
    · obtain rfl := List.mem_singleton.1 he
      exact hspace
  | @comment middle behind start hskips hcomment _ ih =>
    obtain ⟨m, hm⟩ := goesOnAt_blank h hphase (hbytes ▸ hblank) hall
      (hbytes ▸ hcomment.charAt?) (by decide)
    have hcomment' : CommentAt m.source.contents m.cursor.index behind := by
      rw [hm.source_eq, hbytes, hm.index_eq]
      exact hcomment
    obtain ⟨m', hm'⟩ := goesOnAt_comment hm.ready hm.running
      (by rw [hm.config_eq, hkeep, hskips]) hcomment'
    have hsource := (hm.trans hm').source_eq
    have hconfig := (hm.trans hm').config_eq
    have hnone : Utf8.Spells bytes m'.cursor.index behind [] := by
      rw [hm'.index_eq]
      obtain ⟨text, htext⟩ := hcomment.spells
      exact .refl htext.stop_le
    obtain ⟨m'', hm''⟩ := ih hch hm'.ready hm'.running (by rw [hsource, hbytes])
      (by rw [hconfig, hkeep]) hnone (List.forall_mem_nil _)
    exact ⟨m'', (hm.trans hm').trans hm''⟩

/-- A script begins with no gap. -/
theorem not_script_of_gap (hgap : Gap bytes keepComments middle start)
    (hch : Utf8.charAt? bytes start = some '/') : Utf8.charAt? bytes middle ≠ some '#' := by
  intro hmark
  cases hgap with
  | refl => cases hmark.symm.trans hch
  | whitespace hd hspace =>
    obtain rfl := Option.some.inj (hmark.symm.trans hd)
    cases hspace
  | comment _ hcomment => cases hmark.symm.trans hcomment.charAt?

theorem exists_goesOnAt (h : l.Ready) (hphase : l.phase ≠ .finished)
    (hgap : Gap l.source.contents l.config.keepComments l.cursor.index start)
    (hch : Utf8.charAt? l.source.contents start = some '/') : ∃ m, GoesOnAt l m start := by
  have hnot : isWhitespace '/' = false := by decide
  cases hp : l.phase with
  | finished => exact absurd hp hphase
  | scanning =>
    exact exists_goesOnAt_gap hgap hch hnot h hp rfl rfl (.refl h.cursor.boundary.1)
      (List.forall_mem_nil _)
  | start =>
    have hindex := (passes_begun h).index_eq_of_nil
    have hplain : (l.cursor.startsWith ['#', '!']).1 = false := by
      rw [Cursor.startsWith_fst h.cursor.started, h.cursor.text_eq]
      refine eq_false_of_ne_true fun hscript => not_script_of_gap hgap hch ?_
      obtain ⟨rest, hrest⟩ := List.isPrefixOf_iff_prefix.1 hscript
      rw [← Utf8.head?_textFrom, ← hrest]
      rfl
    have hbegun : GoesOnAt l l.begun l.cursor.index := by
      refine ⟨ready_begun h, rfl, rfl, rfl, rfl, hindex, ?_⟩
      rw [next_of_start hp, hplain, next_of_scanning (l := l.begun) rfl]
      rfl
    obtain ⟨m, hm⟩ := exists_goesOnAt_gap (l := l.begun) (hindex ▸ hgap) hch hnot hbegun.ready
      rfl rfl rfl (.refl hbegun.ready.cursor.boundary.1) (List.forall_mem_nil _)
    exact ⟨m, hbegun.trans hm⟩

/-! ## A comment that is opened -/

/-- What becomes of a block comment between two offsets: it is the next token, or it is skipped, and
the call goes on behind it. -/
inductive TakesComment (l : Lexer) (start stop : Nat) : Prop
  | kept {t : Token} (keeps : l.config.keepComments = true) (next_eq : l.next.1 = .ok t)
      (kind_eq : t.kind = .blockComment) (offset_eq : t.offset = start) (stop_eq : t.stop = stop)
  | skipped {m : Lexer} (skips : l.config.keepComments = false)
      (comment : CommentAt l.source.contents start stop) (goesOn : GoesOnAt l m stop)

theorem scanAt_eq_blockComment {text : List Char} (hcur : c.current = .scalar '/')
    (htext : c.text = '/' :: '*' :: text) : ∃ legal c₁,
      scanAt c '/' = Scanner.blockComment legal c₁ ∧ c.Passes [] c₁ := by
  have hupcoming := Cursor.Started.upcoming_eq (.of_scalar hcur) htext
  have hopening : ∃ legal, Opening.of '/' (c.upcoming.take 3) = .blockComment legal := by
    rw [hupcoming]
    exact ⟨_, rfl⟩
  obtain ⟨legal, hlegal⟩ := hopening
  refine ⟨legal, (c.lookahead 3).2, ?_, Cursor.passes_lookahead (.of_scalar hcur) 3⟩
  rw [scanAt, Cursor.lookahead_fst, hlegal]
  rfl

/-- The scan of a block comment passes a nested comment, or there is none. -/
theorem scanAt_opened {text : List Char} (hcur : c.current = .scalar '/')
    (htext : c.text = '/' :: '*' :: text) :
    (∃ comment lexeme c', Scanner.NestedComment comment ∧ scanAt c '/' = .ok lexeme c' ∧
      lexeme.kind = .blockComment ∧ c.Passes comment c') ∨
    ((∀ comment, Scanner.NestedComment comment → ¬ comment <+: c.text) ∧ ∃ c', scanAt c '/' =
      .error (.atOffset .unterminatedBlockComment (c.index + Utf8.size c.text)) c') := by
  obtain ⟨legal, c₁, heq, hahead⟩ := scanAt_eq_blockComment hcur htext
  have htext₁ : c₁.text = '/' :: '*' :: text := hahead.text_eq_of_nil.trans htext
  rw [heq]
  cases hscan : Scanner.blockComment legal c₁ with
  | ok lexeme c' =>
    obtain ⟨comment, hcomment, hpass⟩ :=
      Scanner.exists_nestedComment hahead.started htext₁ hscan
    obtain ⟨lexeme', d, hscan', hkind, -⟩ :=
      hcomment.blockComment_eq_ok legal hahead.started ⟨_, hpass.text_eq.symm⟩
    cases hscan.symm.trans hscan'
    exact .inl ⟨comment, lexeme, c', hcomment, rfl, hkind, hahead.trans hpass⟩
  | error e c' =>
    have he := Scanner.blockComment_eq_error hahead.started hscan
    rw [hahead.index_eq_of_nil, hahead.text_eq_of_nil] at he
    refine .inr ⟨?_, c', he ▸ rfl⟩
    intro comment hcomment hprefix
    rw [← hahead.text_eq_of_nil] at hprefix
    obtain ⟨lexeme, d, hscan', -⟩ := hcomment.blockComment_eq_ok legal hahead.started hprefix
    cases hscan.symm.trans hscan'

theorem GoesOnAt.takesComment (h : GoesOnAt l m start) {comment : List Char} {lexeme : Lexeme}
    (hcur : m.cursor.current = .scalar '/') (hscan : scanAt m.cursor '/' = .ok lexeme c')
    (hkind : lexeme.kind = .blockComment) (hpass : m.cursor.Passes comment c') :
    TakesComment l start (start + Utf8.size comment) := by
  have hskip : skipWhitespace m.newlineBefore m.cursor = (m.newlineBefore, m.cursor) :=
    skipWhitespace_of_not _ hcur (by decide)
  have hcomment : lexeme.kind.isComment = true := by
    rw [hkind]
    rfl
  have hstop : c'.index = start + Utf8.size comment := by rw [hpass.index_eq, h.index_eq]
  cases hkeep : l.config.keepComments with
  | true =>
    have hkept : (lexeme.kind.isComment && !m.config.keepComments) = false := by
      rw [hcomment, h.config_eq, hkeep]
      rfl
    have hnext : m.next.1 = .ok (tokenOf lexeme m.cursor.index m.newlineBefore c') := by
      rw [next_of_scanning h.running, scan_of_token hskip hcur hscan hkept]
    refine .kept hkeep (h.next_eq ▸ hnext) hkind h.index_eq ?_
    rw [stop_tokenOf hpass.spells.start_le, hstop]
  | false =>
    have hat : CommentAt m.source.contents m.cursor.index c'.index :=
      ⟨m.cursor, '/', lexeme, c', h.ready.cursor.bytes_eq, rfl, hcur, hscan, hcomment, rfl⟩
    obtain ⟨m', hm'⟩ := goesOnAt_comment h.ready h.running (by rw [h.config_eq, hkeep]) hat
    rw [h.source_eq, h.index_eq, hstop] at hat
    rw [hstop] at hm'
    exact .skipped hkeep hat (h.trans hm')

/-- An error is about the token at which the call goes on. -/
theorem GoesOnAt.next_of_error (h : GoesOnAt l m start) {e : LexError}
    (hcur : m.cursor.current = .scalar '/') (hscan : scanAt m.cursor '/' = .error e c') :
    l.next.1 = .error e ∧ l.next.2.phase = .finished ∧
      l.next.2.diagnostics = l.diagnostics.push ((e.diagnostic start).located l.source) := by
  have hskip : skipWhitespace m.newlineBefore m.cursor = (m.newlineBefore, m.cursor) :=
    skipWhitespace_of_not _ hcur (by decide)
  have hlies := scanAt_error hcur hscan
  rw [h.ready.cursor.text_eq] at hlies
  have hcall : Call m m.cursor.index (.error (.fatal e))
      (({ m with cursor := c' } : Lexer).abort m.cursor.index e) :=
    call_abort h.ready.tracks rfl rfl h.ready.reported hlies
  rw [h.next_eq, next_of_scanning h.running, scan_of_error hskip hcur hscan]
  generalize hbehind : Lexer.abort _ m.cursor.index e = l' at hcall ⊢
  cases hcall with
  | abort hfinished _ hdiagnostics =>
    rw [h.index_eq, h.source_eq, h.diagnostics_eq] at hdiagnostics
    exact ⟨rfl, hfinished, hdiagnostics⟩

/-- A call that takes a comment does not fail at its opening. -/
theorem GoesOnAt.not_takesComment (h : GoesOnAt l m start) {e : LexError}
    (hcur : m.cursor.current = .scalar '/') (hscan : scanAt m.cursor '/' = .error e c') :
    ¬ TakesComment l start stop := by
  intro htakes
  cases htakes with
  | kept _ hnext =>
    rw [(h.next_of_error hcur hscan).1] at hnext
    cases hnext
  | skipped _ hcomment =>
    rw [← h.source_eq] at hcomment
    obtain ⟨lexeme, c₁, -, hscan', -⟩ :=
      scanAt_of_commentAt hcomment h.ready.cursor.bytes_eq h.index_eq h.ready.cursor.started
    cases hscan.symm.trans hscan'

theorem TakesComment.unique {stop' : Nat} (h : TakesComment l start stop)
    (h' : TakesComment l start stop') : stop = stop' := by
  cases h with
  | kept hkeep hnext _ _ hstop =>
    cases h' with
    | kept _ hnext' _ _ hstop' =>
      cases hnext.symm.trans hnext'
      exact hstop.symm.trans hstop'
    | skipped hskip => cases hkeep.symm.trans hskip
  | skipped hskip hcomment =>
    cases h' with
    | kept hkeep => cases hkeep.symm.trans hskip
    | skipped _ hcomment' => exact hcomment.unique hcomment'

/-- Where a block comment is opened, a call of any lexer that a caller can have takes the nested
comment that stands there, of which there is only one. If there is none, it fails: the error stands
at the end of the valid input, with one note that spans the opening. A counter of open comments in
a word of 32 bits stays in its range. -/
theorem Reached.takesComment_iff {source : Source} {config : LexerConfig}
    (h : Reached source config l) (hphase : l.phase ≠ .finished)
    (hgap : Gap source.contents config.keepComments l.cursor.index start)
    (hopening : ['/', '*'] <+: Utf8.textFrom source.contents start) :
    (∀ stop, TakesComment l start stop ↔ ∃ comment, Scanner.NestedComment comment ∧
      comment <+: Utf8.textFrom source.contents start ∧ stop = start + Utf8.size comment) ∧
    (∀ comment comment', Scanner.NestedComment comment → Scanner.NestedComment comment' →
      comment <+: Utf8.textFrom source.contents start →
      comment' <+: Utf8.textFrom source.contents start → comment = comment') ∧
    ((∀ comment, Scanner.NestedComment comment →
        ¬ comment <+: Utf8.textFrom source.contents start) →
      ∃ n, IsGreatest {m | Utf8.IsBoundary source.contents m} n ∧
        l.next.1 = .error ⟨.point n, .unterminatedBlockComment⟩ ∧ l.next.2.phase = .finished ∧
        ∃ d, l.next.2.diagnostics = l.diagnostics.push d ∧ d.code = .unterminatedBlockComment ∧
          d.span = .point n ∧ d.notes.map Note.span? = [some ⟨start, start + 2⟩]) ∧
    ∀ c legal, At source c → c.index = start →
      Scanner.blockCommentCounted legal c = .ok (Scanner.blockComment legal c) := by
  obtain ⟨hready, rfl, rfl⟩ := h.readyFor.resolve_left hphase
  obtain ⟨text, htext⟩ := hopening
  have hch : Utf8.charAt? l.source.contents start = some '/' := by
    rw [← Utf8.head?_textFrom, ← htext]
    rfl
  obtain ⟨m, hm⟩ := exists_goesOnAt hready hphase hgap hch
  have hplace : m.cursor.text = Utf8.textFrom l.source.contents start := by
    rw [hm.ready.cursor.text_eq, hm.source_eq, hm.index_eq]
  have htext' : m.cursor.text = '/' :: '*' :: text := hplace.trans htext.symm
  have hcur := hm.ready.cursor.started.current_of_text_cons htext'
  have hopened := scanAt_opened hcur htext'
  rw [hplace] at hopened
  refine ⟨?_, ?_, ?_, ?_⟩
  · intro stop
    constructor
    · intro htakes
      obtain ⟨comment, lexeme, c', hcomment, hscan, hkind, hpass⟩ | ⟨-, c', hscan⟩ := hopened
      · have htakes' := hm.takesComment hcur hscan hkind hpass
        exact ⟨comment, hcomment, ⟨_, hplace ▸ hpass.text_eq.symm⟩, htakes.unique htakes'⟩
      · exact absurd htakes (hm.not_takesComment hcur hscan)
    · rintro ⟨comment, hcomment, hprefix, rfl⟩
      obtain ⟨comment', lexeme, c', hcomment', hscan, hkind, hpass⟩ | ⟨hnone, -⟩ := hopened
      · obtain rfl := hcomment.unique hm.ready.cursor.started hcomment' (hplace ▸ hprefix)
          ⟨_, hpass.text_eq.symm⟩
        exact hm.takesComment hcur hscan hkind hpass
      · exact absurd hprefix (hnone comment hcomment)
  · intro comment comment' hcomment hcomment' hprefix hprefix'
    exact hcomment.unique hm.ready.cursor.started hcomment' (hplace ▸ hprefix) (hplace ▸ hprefix')
  · intro hnone
    obtain ⟨comment, lexeme, c', hcomment, hscan, hkind, hpass⟩ | ⟨-, c', hscan⟩ := hopened
    · exact absurd ⟨_, hplace ▸ hpass.text_eq.symm⟩ (hnone comment hcomment)
    · have hboundary : Utf8.IsBoundary l.source.contents start := by
        rw [← hm.source_eq, ← hm.index_eq]
        exact hm.ready.cursor.boundary
      have hend := (Utf8.spells_validEnd hboundary.1).stop_eq
      rw [hboundary.validEnd_eq] at hend
      rw [hm.index_eq, ← hend] at hscan
      obtain ⟨hnext, hfinished, hdiagnostics⟩ := hm.next_of_error hcur hscan
      exact ⟨_, Utf8.isGreatest_validEnd _, hnext, hfinished, _, hdiagnostics, rfl, rfl, rfl⟩
  · intro c legal hat hindex
    have hsame : c.text = '/' :: '*' :: text := by
      rw [hat.text_eq, hindex, ← htext]
      rfl
    exact Scanner.blockCommentCounted_eq legal hat.started hsame

/-- A comment in a comment, with delimiters that overlap, in front of a name. -/
def overlapping : Source := ⟨"overlapping", " /*/*/ */**/é".toUTF8, 0, by decide⟩

theorem takesComment_overlapping :
    TakesComment (Lexer.ofSource overlapping { keepComments := false }) 1 12 := by
  have hblank : Utf8.charAt? overlapping.contents 0 = some ' ' := by decide +kernel
  have hopening : ['/', '*'] <+: Utf8.textFrom overlapping.contents 1 := by decide +kernel
  have hgap : Gap overlapping.contents false 0 1 := .whitespace hblank (by decide) (.refl 1)
  have hinner : Scanner.CommentTail ['/', ' ', '*', '/'] :=
    .single (by decide) (by decide) (.single (by decide) (by decide) .close)
  have hcomment : Scanner.NestedComment "/*/*/ */**/".toList :=
    .intro (.nested hinner (.single (by decide) (by decide) .close))
  have hprefix : "/*/*/ */**/".toList <+: Utf8.textFrom overlapping.contents 1 := by
    decide +kernel
  have hfresh : Reached overlapping { keepComments := false } (Lexer.ofSource overlapping _) :=
    .fresh
  obtain ⟨htakes, -⟩ := Reached.takesComment_iff hfresh nofun hgap hopening
  exact (htakes 12).2 ⟨_, hcomment, hprefix, rfl⟩

end Lexer

end Lexis
