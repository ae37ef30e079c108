import Lexis.Proofs.Lexer.Gap
import Lexis.Proofs.Lexer.Reporting

/-!
# What a call comes to

Between calls a lexer is `Ready`: its cursor stands on a boundary of the source, its tracker is
right, and what it has reported starts before the cursor. A call skips a gap and then finds a token,
the end or an error (`Call`), and a token leaves the lexer ready for the next call.
-/

namespace Lexis.Lexer

/-- The cursor reads the source, from a boundary on. -/
structure At (source : Source) (c : Cursor) : Prop where
  bytes_eq : c.bytes = source.contents
  started : c.Started
  boundary : Utf8.IsBoundary source.contents c.index

structure Ready (l : Lexer) : Prop where
  cursor : At l.source l.cursor
  tracks : l.tracker.Tracks l.source
  reported : l.ReportedBefore l.cursor.index

theorem phase_ne_finished {l : Lexer} (h : l.phase = .scanning) : l.phase ≠ .finished := by
  intro hfinished
  rw [h] at hfinished
  cases hfinished

/-- What a problem costs: a diagnostic that starts inside the token. -/
def Complains (source : Source) (before : Array Diagnostic) (t : Token) (after : Array Diagnostic) :
    Prop :=
  if t.kind = .syntaxError then
    ∃ problem : Problem, after = before.push (problem.diagnostic.located source) ∧
      t.offset ≤ problem.span.start ∧ problem.span.start < problem.span.stop ∧
      problem.span.stop ≤ t.stop
  else after = before

theorem complains_of_ne {source : Source} {before after : Array Diagnostic} {t : Token}
    (h : t.kind ≠ .syntaxError) (heq : after = before) : Complains source before t after := by
  rw [Complains, if_neg h]
  exact heq

theorem complains_of_problem {source : Source} {before after : Array Diagnostic} {t : Token}
    (problem : Problem) (h : t.kind = .syntaxError)
    (heq : after = before.push (problem.diagnostic.located source))
    (hstart : t.offset ≤ problem.span.start) (hlt : problem.span.start < problem.span.stop)
    (hstop : problem.span.stop ≤ t.stop) : Complains source before t after := by
  rw [Complains, if_pos h]
  exact ⟨problem, heq, hstart, hlt, hstop⟩

/-- What a call comes to where a token could begin at `start`. -/
inductive Call (l : Lexer) (start : Nat) : Except Stop Token → Lexer → Prop
  | token {t : Token} {l' : Lexer} {text : List Char} (ready : l'.Ready)
      (source_eq : l'.source = l.source) (config_eq : l'.config = l.config)
      (running : l'.phase = .scanning) (kind_ne : t.kind ≠ .endOfInput)
      (offset_eq : t.offset = start) (stop_eq : t.stop = l'.cursor.index) (text_ne : text ≠ [])
      (spells : Utf8.Spells l.source.contents start t.stop text)
      (complains : Complains l.source l.diagnostics t l'.diagnostics) : Call l start (.ok t) l'
  | finish {t : Token} {l' : Lexer} (finished : l'.phase = .finished)
      (kind_eq : t.kind = .endOfInput) (offset_eq : t.offset = start) (len_eq : t.len = 0)
      (text_eq : Utf8.textFrom l.source.contents start = [])
      (diagnostics_eq : l'.diagnostics = l.diagnostics) : Call l start (.ok t) l'
  | abort {e : LexError} {l' : Lexer} (finished : l'.phase = .finished)
      (liesIn : e.LiesIn start (Utf8.textFrom l.source.contents start))
      (diagnostics_eq : l'.diagnostics =
        l.diagnostics.push ((e.diagnostic start).located l.source)) :
      Call l start (.error (.fatal e)) l'

theorem Call.of_eq {l l₁ l' : Lexer} {start : Nat} {result : Except Stop Token}
    (h : Call l₁ start result l') (hsource : l₁.source = l.source) (hconfig : l₁.config = l.config)
    (hdiagnostics : l₁.diagnostics = l.diagnostics) : Call l start result l' := by
  cases h with
  | token ready source_eq config_eq running kind_ne offset_eq stop_eq text_ne spells complains =>
    rw [hsource] at source_eq spells complains
    rw [hdiagnostics] at complains
    exact .token ready source_eq (config_eq.trans hconfig) running kind_ne offset_eq stop_eq text_ne
      spells complains
  | finish finished kind_eq offset_eq len_eq text_eq diagnostics_eq =>
    rw [hsource] at text_eq
    exact .finish finished kind_eq offset_eq len_eq text_eq (diagnostics_eq.trans hdiagnostics)
  | abort finished liesIn diagnostics_eq =>
    rw [hsource] at liesIn
    rw [hsource, hdiagnostics] at diagnostics_eq
    exact .abort finished liesIn diagnostics_eq

section Cursor

variable {source : Source} {c c' : Cursor} {passed : List Char}

theorem At.of_passes (h : At source c) (hpass : c.Passes passed c') : At source c' where
  bytes_eq := hpass.bytes_eq.trans h.bytes_eq
  started := hpass.started
  boundary := h.boundary.of_spells (h.bytes_eq ▸ hpass.spells)

theorem At.text_eq (h : At source c) : c.text = Utf8.textFrom source.contents c.index := by
  rw [Cursor.text, h.bytes_eq]

theorem At.spells (h : At source c) (hpass : c.Passes passed c') :
    Utf8.Spells source.contents c.index c'.index passed :=
  h.bytes_eq ▸ hpass.spells

theorem At.ofSource (source : Source) (capacity : Nat) :
    At source (Cursor.ofBytes source.contents capacity).advance ∧
      (Cursor.ofBytes source.contents capacity).advance.index = 0 := by
  have hindex : (Cursor.ofBytes source.contents capacity).advance.index = 0 :=
    Cursor.index_advance _
  refine ⟨⟨?_, .advance _, ?_⟩, hindex⟩
  · rw [Cursor.bytes_advance]
    exact if_pos source.size_lt
  · rw [hindex]
    exact Utf8.isBoundary_zero _

end Cursor

theorem ready_ofSource (source : Source) (config : LexerConfig) :
    (Lexer.ofSource source config).Ready where
  cursor := (At.ofSource source config.lookaheadCapacity).1
  tracks := ⟨LineTracker.Sound.fresh _ _, rfl, rfl⟩
  reported := nofun

/-! ## Errors and lexemes -/

variable {l l' : Lexer} {start : Nat}

theorem call_abort {e : LexError} (htracks : l'.tracker.Tracks l.source)
    (hsource : l'.source = l.source) (hdiagnostics : l'.diagnostics = l.diagnostics)
    (hreported : l.ReportedBefore start)
    (hlies : e.LiesIn start (Utf8.textFrom l.source.contents start)) :
    Call l start (.error (.fatal e)) (l'.abort start e) := by
  have hnew : ({ l' with phase := .finished } : Lexer).ReportedBefore
      (e.diagnostic start).span.start := by
    intro d hd
    exact Nat.lt_of_lt_of_le (hreported d (hdiagnostics ▸ hd)) hlies.start_le
  obtain ⟨t, -, hreport⟩ := report_eq (hsource ▸ htracks) hnew
  refine .abort ?_ hlies ?_
  · rw [Lexer.abort, hreport]
  · rw [Lexer.abort, hreport]
    show l'.diagnostics.push _ = _
    rw [hdiagnostics, hsource]

section Lexeme

variable {c : Cursor} {text : List Char} {lexeme : Lexeme}

theorem stop_tokenOf (hle : start ≤ c.index) (newline : Bool) :
    (tokenOf lexeme start newline c).stop = c.index :=
  Nat.add_sub_cancel' hle

/-- A token spells what has been passed for it. -/
theorem At.spells_tokenOf {source : Source} {c' : Cursor} (h : At source c)
    (hpass : c.Passes text c') (newline : Bool) :
    Utf8.Spells source.contents (tokenOf lexeme c.index newline c').offset
      (tokenOf lexeme c.index newline c').stop text := by
  rw [stop_tokenOf (h.spells hpass).start_le]
  exact h.spells hpass

theorem problem?_eq_none_of_isComment (hfits : lexeme.Fits start c.index)
    (h : lexeme.kind.isComment = true) : lexeme.problem? = none := by
  cases hproblem : lexeme.problem? with
  | none => rfl
  | some problem =>
    have hkind := hfits.problem
    rw [hproblem] at hkind
    rw [hkind.1] at h
    cases h

theorem accept_of_none (h : lexeme.problem? = none) :
    l.accept lexeme c = { l with cursor := c, pragmas := l.pragmas.update lexeme.pragmas } := by
  simp only [accept, h]

/-- The lexer moves over a lexeme without a problem. -/
theorem call_move (htracks : l.tracker.Tracks l.source) (hreported : l.ReportedBefore start)
    (hat : At l.source c) (hspells : Utf8.Spells l.source.contents start c.index text)
    (hne : text ≠ []) (hfits : lexeme.Fits start c.index) (hproblem : lexeme.problem? = none)
    (hphase : l.phase = .scanning) (newline newline' : Bool) (pragmas : Pragmas) :
    Call l start (.ok (tokenOf lexeme start newline c))
      { l with cursor := c, newlineBefore := newline', pragmas } := by
  have hkind := hfits.problem
  rw [hproblem] at hkind
  have hstop : (tokenOf lexeme start newline c).stop = c.index :=
    stop_tokenOf hspells.start_le newline
  refine .token ⟨hat, htracks, hreported.mono hspells.start_le⟩ rfl rfl hphase hfits.kind_ne rfl
    hstop hne (hstop ▸ hspells) ?_
  exact complains_of_ne hkind rfl

theorem call_accept (htracks : l.tracker.Tracks l.source) (hreported : l.ReportedBefore start)
    (hat : At l.source c) (hspells : Utf8.Spells l.source.contents start c.index text)
    (hne : text ≠ []) (hfits : lexeme.Fits start c.index) (hphase : l.phase = .scanning)
    (newline newline' : Bool) :
    Call l start (.ok (tokenOf lexeme start newline c))
      { l.accept lexeme c with newlineBefore := newline' } := by
  cases hproblem : lexeme.problem? with
  | none =>
    rw [accept_of_none hproblem]
    exact call_move htracks hreported hat hspells hne hfits hproblem hphase newline newline' _
  | some problem =>
    have hspan := hfits.problem
    rw [hproblem] at hspan
    obtain ⟨hkind, hfirst, hlt, hlast⟩ := hspan
    have hstop : (tokenOf lexeme start newline c).stop = c.index :=
      stop_tokenOf hspells.start_le newline
    let moved : Lexer := { l with cursor := c, pragmas := l.pragmas.update lexeme.pragmas }
    obtain ⟨t, htracks', hreport⟩ := report_eq (l := moved) (d := problem.diagnostic) htracks
      (hreported.mono hfirst)
    have haccept : l.accept lexeme c = { moved with
        tracker := t
        diagnostics := l.diagnostics.push (problem.diagnostic.located l.source) } := by
      refine Eq.trans ?_ hreport
      simp only [accept, hproblem]
      rfl
    rw [haccept]
    refine .token ⟨hat, htracks', ?_⟩ rfl rfl hphase hfits.kind_ne rfl hstop hne
      (hstop ▸ hspells) (complains_of_problem problem hkind rfl hfirst hlt (hstop ▸ hlast))
    intro d hd
    rcases Array.mem_push.1 hd with hd | rfl
    · exact Nat.lt_of_lt_of_le (hreported d hd) hspells.start_le
    · exact Nat.lt_of_lt_of_le hlt hlast

end Lexeme

/-! ## Calls -/

/-- A token, the end or an error stands behind a gap. -/
theorem scan_call (h : l.Ready) (hphase : l.phase = .scanning) :
    ∃ start, Gap l.source.contents l.config.keepComments l.cursor.index start ∧
      Call l start (l.scan.1.mapError .fatal) l.scan.2 := by
  fun_induction scan l with
  | case1 l newline c hskip ch hcur e c' hscan =>
    obtain ⟨gap, hgap, hblank⟩ := passes_skipWhitespace l.newlineBefore h.cursor.started
    rw [hskip] at hgap
    have hat := h.cursor.of_passes hgap
    have hspells := h.cursor.spells hgap
    refine ⟨c.index, .of_spells hspells hblank, ?_⟩
    exact call_abort h.tracks rfl rfl (h.reported.mono hspells.start_le)
      (hat.text_eq ▸ scanAt_error hcur hscan)
  | case2 l newline c hskip ch hcur lexeme c' hscan hlt hcomment ih =>
    obtain ⟨gap, hgap, hblank⟩ := passes_skipWhitespace l.newlineBefore h.cursor.started
    rw [hskip] at hgap
    have hat := h.cursor.of_passes hgap
    have hspells := h.cursor.spells hgap
    obtain ⟨⟨passed, hne, hpassed⟩, hfits⟩ := scanAt_ok hcur hscan
    obtain ⟨hkind, hkeep⟩ := Bool.and_eq_true_iff.1 hcomment
    -- Nothing is reported for a comment, so that the lexer behind it is ready again.
    rw [accept_of_none (problem?_eq_none_of_isComment hfits hkind)] at ih ⊢
    have hreported := (h.reported.mono hspells.start_le).mono (hat.spells hpassed).start_le
    obtain ⟨start, hrest, hcall⟩ := ih ⟨hat.of_passes hpassed, h.tracks, hreported⟩ hphase
    have hskipped : CommentAt l.source.contents c.index c'.index :=
      ⟨c, ch, lexeme, c', hat.bytes_eq, rfl, hcur, hscan, hkind, rfl⟩
    refine ⟨start, ?_, hcall.of_eq rfl rfl rfl⟩
    exact (Gap.of_spells hspells hblank).append (.comment (by simpa using hkeep) hskipped hrest)
  | case3 l newline c hskip ch hcur lexeme c' hscan hlt hcomment =>
    obtain ⟨gap, hgap, hblank⟩ := passes_skipWhitespace l.newlineBefore h.cursor.started
    rw [hskip] at hgap
    have hat := h.cursor.of_passes hgap
    have hspells := h.cursor.spells hgap
    obtain ⟨⟨passed, hne, hpassed⟩, hfits⟩ := scanAt_ok hcur hscan
    refine ⟨c.index, .of_spells hspells hblank, ?_⟩
    exact call_accept h.tracks (h.reported.mono hspells.start_le) (hat.of_passes hpassed)
      (hat.spells hpassed) hne hfits hphase newline false
  | case4 l newline c hskip hnot =>
    obtain ⟨gap, hgap, hblank⟩ := passes_skipWhitespace l.newlineBefore h.cursor.started
    rw [hskip] at hgap
    have hat := h.cursor.of_passes hgap
    refine ⟨c.index, .of_spells (h.cursor.spells hgap) hblank, ?_⟩
    refine .finish rfl rfl rfl (Nat.sub_self _) ?_ rfl
    rw [← hat.text_eq]
    exact hat.started.text_of_not_scalar hnot

theorem scanHashbang_call (h : l.Ready) (hphase : l.phase = .scanning)
    (hcur : l.cursor.current = .scalar '#') :
    Call l l.cursor.index (l.scanHashbang.1.mapError .fatal) l.scanHashbang.2 := by
  have hopening := Cursor.passes_advanceBy h.cursor.started 1
  have hline := hopening.trans (Cursor.passes_skipToLineEnd hopening.started)
  have hspells := h.cursor.spells hline
  rw [Cursor.text_of_scalar hcur] at hspells
  have hfits : Lexeme.Fits { kind := .hashbang } l.cursor.index
      (l.cursor.advanceBy 1).skipToLineEnd.index := Lexeme.fits_of_ne nofun nofun rfl
  exact call_move h.tracks h.reported (h.cursor.of_passes hline) hspells nofun hfits rfl hphase _ _ _

theorem first_call (h : l.Ready) :
    ∃ start, Gap l.source.contents l.config.keepComments l.cursor.index start ∧
      Call l start (l.first.1.mapError .fatal) l.first.2 := by
  have hahead := Cursor.passes_startsWith h.cursor.started ['#', '!']
  let started : Lexer := { l with cursor := (l.cursor.startsWith ['#', '!']).2, phase := .scanning }
  have hready : started.Ready :=
    ⟨h.cursor.of_passes hahead, h.tracks, hahead.index_eq_of_nil ▸ h.reported⟩
  have hindex : started.cursor.index = l.cursor.index := hahead.index_eq_of_nil
  unfold first
  simp only
  split
  · rename_i hscript
    have hcall := scanHashbang_call hready rfl (Cursor.current_of_startsWith hscript)
    rw [hindex] at hcall
    exact ⟨_, .refl _, hcall.of_eq rfl rfl rfl⟩
  · obtain ⟨start, hgap, hcall⟩ := scan_call hready rfl
    rw [hindex] at hgap
    exact ⟨start, hgap, hcall.of_eq rfl rfl rfl⟩

theorem next_call (h : l.Ready) (hphase : l.phase ≠ .finished) :
    ∃ start, Gap l.source.contents l.config.keepComments l.cursor.index start ∧
      Call l start (l.next.1.mapError .fatal) l.next.2 := by
  unfold next
  cases hp : l.phase with
  | finished => exact absurd hp hphase
  | scanning => exact scan_call h hp
  | start => exact first_call h

/-- Going on with a template at the brace before the cursor is no violation. -/
theorem rescan_of_brace {brace : Token} (hphase : l.phase = .scanning)
    (hkind : brace.kind = .operator .closeBrace) (hstop : brace.stop = l.cursor.index) :
    l.rescan brace =
      match Scanner.templateContinuation brace.offset { multiLine := true } l.cursor with
      | .error e c => (.error (.fatal e), { l with cursor := c }.abort brace.offset e)
      | .ok lexeme c =>
        (.ok (tokenOf lexeme brace.offset brace.flags.newlineBefore c),
          { l with cursor := c }) := by
  have hlegal : (if l.config.strict then l.rescanViolation? brace else none) = none := by
    simp [rescanViolation?, hkind, hstop]
  have hrescan := l.rescans brace
  generalize l.rescan brace = found at hrescan ⊢
  cases hrescan with
  | finished hfinished => exact absurd hfinished (phase_ne_finished hphase)
  | refused _ hviolation => cases hlegal.symm.trans hviolation
  | broken _ hscan | resumed _ hscan => rw [hscan]

/-- A template goes on at the brace before the cursor. -/
theorem rescan_call {brace : Token} {text : List Char} (h : l.Ready) (hphase : l.phase = .scanning)
    (hkind : brace.kind = .operator .closeBrace) (hstop : brace.stop = l.cursor.index)
    (hspells : Utf8.Spells l.source.contents brace.offset brace.stop text) (hne : text ≠ [])
    (hreported : l.ReportedBefore brace.offset) :
    Call l brace.offset (l.rescan brace).1 (l.rescan brace).2 := by
  have hends := Scanner.ends_templateContinuation brace.offset { multiLine := true } h.cursor.started
  rw [rescan_of_brace hphase hkind hstop]
  rw [hstop] at hspells
  unfold Scanner.Ends at hends
  cases hscan : Scanner.templateContinuation brace.offset { multiLine := true } l.cursor with
  | error e c =>
    rw [hscan] at hends
    have hbroken : Scanner.BreaksOff .template brace.offset l.cursor e := hends
    have hlies := hbroken.liesIn hspells.stop_eq
    rw [h.cursor.text_eq, ← hspells.textFrom_eq] at hlies
    exact call_abort h.tracks rfl rfl hreported hlies
  | ok lexeme c =>
    rw [hscan] at hends
    obtain ⟨⟨passed, hpassed⟩, hproblem, hfits⟩ := hends
    exact call_move h.tracks hreported (h.cursor.of_passes hpassed)
      (hspells.append (h.cursor.spells hpassed)) (List.append_ne_nil_of_left_ne_nil hne _) hfits
      hproblem hphase _ _ _

end Lexis.Lexer
