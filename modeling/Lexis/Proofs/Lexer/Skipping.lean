import Lexis.Proofs.Lexer.Newlines
import Lexis.Proofs.Lexer.Separation

/-!
# Skipping comments

A lexer that skips comments finds the tokens of one that keeps them, without the comments. The token
behind a comment tells of the line terminators in it and in front of it; nothing else is different
(`ofSource_skipComments`).
-/

namespace Lexis

/-- Whether there is a line terminator in the comments or in front of one of them. -/
def Token.crossLines (bytes : ByteArray) (comments : List Token) : Bool :=
  comments.any fun c => c.flags.newlineBefore || HasTerminator bytes c.offset c.stop

/-- The token behind a line terminator, if `newline` says that there is one. -/
def Token.behind (t : Token) (newline : Bool) : Token :=
  { t with flags := t.flags.union { newlineBefore := newline } }

/-- The tokens that are no comments. `skipped` are the comments since the last one of them. -/
def Token.withoutComments (bytes : ByteArray) (skipped : List Token) : List Token → List Token
  | [] => []
  | t :: tokens =>
    if t.kind.isComment then withoutComments bytes (skipped ++ [t]) tokens
    else t.behind (crossLines bytes skipped) :: withoutComments bytes [] tokens

namespace Lexer

/-- The lexer that skips comments, behind comments with a line terminator if `newline` says so. -/
def skipping (l : Lexer) (newline : Bool) : Lexer :=
  { l with
    config := { l.config with keepComments := false }
    newlineBefore := l.newlineBefore || newline }

variable {l l' : Lexer} {t : Token} {newline : Bool}

theorem skipping_report (l : Lexer) (newline : Bool) (d : Diagnostic) :
    (l.skipping newline).report d = (l.report d).skipping newline := by
  unfold report skipping
  simp only
  split <;> rfl

theorem skipping_abort (l : Lexer) (newline : Bool) (start : Nat) (e : LexError) :
    (l.skipping newline).abort start e = (l.abort start e).skipping newline :=
  skipping_report { l with phase := .finished } newline (e.diagnostic start)

theorem skipping_accept (l : Lexer) (newline : Bool) (lexeme : Lexeme) (c : Cursor) :
    (l.skipping newline).accept lexeme c = (l.accept lexeme c).skipping newline := by
  rw [accept_eq, accept_eq]
  cases lexeme.problem? with
  | none => rfl
  | some problem =>
    exact skipping_report { l with cursor := c, pragmas := l.pragmas.update lexeme.pragmas } newline
      problem.diagnostic

/-- What has been noticed before does not change how whitespace is skipped. -/
theorem skipWhitespace_or (found newline : Bool) (c : Cursor) :
    skipWhitespace (found || newline) c =
      ((skipWhitespace found c).1 || newline, (skipWhitespace found c).2) := by
  fun_induction skipWhitespace found c with
  | case1 found c ch hcur hlt _ hblank ih =>
    rw [← ih, skipWhitespace_def]
    simp only [hcur, if_pos hblank]
  | case2 found c ch hcur hlt _ hblank hspace ih =>
    rw [← ih, skipWhitespace_def, Bool.or_right_comm]
    simp only [hcur, if_neg hblank, if_pos hspace]
  | case3 found c ch hcur hlt _ hblank hspace =>
    rw [skipWhitespace_def]
    simp only [hcur, if_neg hblank, if_neg hspace]
  | case4 found c hnot =>
    rw [skipWhitespace_def]
    split
    · rename_i ch hcur
      exact absurd hcur (hnot ch)
    · rfl

/-! ## One call -/

/-- What a lexer that skips comments comes to, where one that keeps them comes to a result. -/
inductive Skips (bytes : ByteArray) (newline : Bool) (found : Except LexError Token × Lexer) :
    Except LexError Token → Lexer → Prop
  | error {e : LexError} {l' : Lexer} (newline' : Bool)
      (found_eq : found = (.error e, l'.skipping newline')) :
      Skips bytes newline found (.error e) l'
  | comment {t : Token} {l' : Lexer} (running : l'.phase = .scanning)
      (kind_eq : t.kind.isComment = true)
      (found_eq : found = (l'.skipping (newline || Token.crossLines bytes [t])).next) :
      Skips bytes newline found (.ok t) l'
  | token {t : Token} {l' : Lexer} (kind_eq : t.kind.isComment = false)
      (found_eq : found = (.ok (t.behind newline), l'.skipping false)) :
      Skips bytes newline found (.ok t) l'

theorem crossLines_tokenOf {source : Source} {c c' : Cursor} {ch : Char} {lexeme : Lexeme}
    (h : At source c) (hcur : c.current = .scalar ch) (hscan : scanAt c ch = .ok lexeme c')
    (hcomment : lexeme.kind.isComment = true) (newline : Bool) :
    Token.crossLines source.contents [tokenOf lexeme c.index newline c'] =
      (newline || lexeme.crossesLine) := by
  obtain ⟨passed, hpassed, hcrosses⟩ := crossesLine_of_scanAt hcur hscan hcomment
  have hspells := h.spells hpassed
  have hterminator : HasTerminator source.contents (tokenOf lexeme c.index newline c').offset
      (tokenOf lexeme c.index newline c').stop ↔ lexeme.crossesLine = true := by
    rw [stop_tokenOf hspells.start_le, hcrosses]
    exact hasTerminator_of_spells hspells
  rw [Token.crossLines, List.any_cons, List.any_nil, Bool.or_false,
    newlineBefore_tokenOf (bare_of_scanAt hscan).newlineBefore_eq, Bool.decide_congr hterminator,
    Bool.decide_eq_true]

theorem tokenOf_behind (lexeme : Lexeme) (start : Nat) (found newline : Bool) (c : Cursor) :
    (tokenOf lexeme start found c).behind newline = tokenOf lexeme start (found || newline) c := by
  simp only [Token.behind, tokenOf, TokenFlags.union_union]

theorem scan_skipping_of_comment {c c' : Cursor} {ch : Char} {lexeme : Lexeme} {found : Bool}
    (h : At l.source c) (hphase : l.phase = .scanning)
    (hskip : skipWhitespace (l.skipping newline).newlineBefore (l.skipping newline).cursor =
      (found || newline, c))
    (hcur : c.current = .scalar ch) (hscan : scanAt c ch = .ok lexeme c')
    (hcomment : lexeme.kind.isComment = true) :
    (l.skipping newline).scan =
      (({ l.accept lexeme c' with newlineBefore := false } : Lexer).skipping (newline ||
        Token.crossLines l.source.contents [tokenOf lexeme c.index found c'])).next := by
  let behind : Lexer := { l.accept lexeme c' with newlineBefore := false }
  have hrunning : behind.phase = .scanning := (phase_accept ..).trans hphase
  have hskipped : (lexeme.kind.isComment && !(l.skipping newline).config.keepComments) = true := by
    rw [hcomment]
    rfl
  rw [scan_of_comment hskip hcur hscan hskipped, crossLines_tokenOf h hcur hscan hcomment,
    skipping_accept]
  refine Eq.trans ?_ (next_of_scanning (l := behind.skipping _) hrunning).symm
  simp only [skipping, behind, Bool.false_or]
  rw [Bool.or_right_comm, Bool.or_comm _ newline]

theorem skips_scan (h : At l.source l.cursor) (hphase : l.phase = .scanning)
    (hkeep : l.config.keepComments = true) (newline : Bool) :
    Skips l.source.contents newline (l.skipping newline).scan l.scan.1 l.scan.2 := by
  have hskip : skipWhitespace (l.skipping newline).newlineBefore (l.skipping newline).cursor = _ :=
    skipWhitespace_or l.newlineBefore newline l.cursor
  obtain ⟨hgap, -⟩ := skipWhitespace_eq l.newlineBefore h.started
  generalize hfound : skipWhitespace l.newlineBefore l.cursor = skipped at hskip hgap
  obtain ⟨found, c⟩ := skipped
  by_cases hscalar : ∃ ch, c.current = .scalar ch
  · obtain ⟨ch, hcur⟩ := hscalar
    cases hscan : scanAt c ch with
    | error e c' =>
      rw [scan_of_error hfound hcur hscan, scan_of_error hskip hcur hscan]
      refine .error newline (congrArg (Prod.mk _) ?_)
      exact skipping_abort { l with cursor := c', newlineBefore := found } newline c.index e
    | ok lexeme c' =>
      have hkept : (lexeme.kind.isComment && !l.config.keepComments) = false := by
        rw [hkeep, Bool.not_true, Bool.and_false]
      rw [scan_of_token hfound hcur hscan hkept]
      cases hcomment : lexeme.kind.isComment with
      | true =>
        refine .comment ((phase_accept ..).trans hphase) hcomment ?_
        exact scan_skipping_of_comment (h.of_passes hgap) hphase hskip hcur hscan hcomment
      | false =>
        have hskipped : (lexeme.kind.isComment && !(l.skipping newline).config.keepComments) =
            false := by
          rw [hcomment, Bool.false_and]
        rw [scan_of_token hskip hcur hscan hskipped]
        refine .token hcomment ?_
        rw [tokenOf_behind, skipping_accept]
        rfl
  · have hnot : ∀ ch, c.current ≠ .scalar ch := fun ch hcur => hscalar ⟨ch, hcur⟩
    rw [scan_of_not_scalar hfound hnot, scan_of_not_scalar hskip hnot]
    refine .token rfl ?_
    rw [tokenOf_behind]
    rfl

theorem skips_next (h : l.Ready) (hphase : l.phase ≠ .finished)
    (hkeep : l.config.keepComments = true) (newline : Bool) :
    Skips l.source.contents newline (l.skipping newline).next l.next.1 l.next.2 := by
  cases hp : l.phase with
  | finished => exact absurd hp hphase
  | scanning =>
    rw [next_of_scanning hp, next_of_scanning (l := l.skipping newline) hp]
    exact skips_scan h.cursor hp hkeep newline
  | start =>
    rw [next_of_start hp, next_of_start (l := l.skipping newline) hp]
    by_cases hscript : (l.cursor.startsWith ['#', '!']).1 = true
    · have hscript' : ((l.skipping newline).cursor.startsWith ['#', '!']).1 = true := hscript
      rw [if_pos hscript, if_pos hscript']
      unfold scanHashbang
      refine .token rfl ?_
      rw [tokenOf_behind]
      rfl
    · have hscript' : ¬ ((l.skipping newline).cursor.startsWith ['#', '!']).1 = true := hscript
      rw [if_neg hscript, if_neg hscript']
      exact skips_scan (l := l.begun) (ready_begun h).cursor rfl hkeep newline

/-! ## What is left of a file -/

theorem crossLines_append (bytes : ByteArray) (comments more : List Token) :
    Token.crossLines bytes (comments ++ more) =
      (Token.crossLines bytes comments || Token.crossLines bytes more) :=
  List.any_append

theorem rest_skipping (h : l.Ready) (hphase : l.phase ≠ .finished)
    (hkeep : l.config.keepComments = true) (skipped : List Token) :
    ∃ newline, (l.skipping (Token.crossLines l.source.contents skipped)).rest =
      (Token.withoutComments l.source.contents skipped l.rest.1, l.rest.2.1,
        l.rest.2.2.skipping newline) := by
  have hskips := skips_next h hphase hkeep (Token.crossLines l.source.contents skipped)
  fun_induction rest l generalizing skipped with
  | case1 l e l' hnext =>
    rw [hnext] at hskips
    cases hskips with
    | error newline' hfound =>
      rw [rest_eq, hfound]
      exact ⟨newline', rfl⟩
  | case2 l t l' hnext hfinished =>
    rw [hnext] at hskips
    cases hskips with
    | comment hrunning => exact absurd ((isFinished_eq l').1 hfinished) (phase_ne_finished hrunning)
    | token hkind hfound =>
      have hfinished' : (l'.skipping false).isFinished = true := hfinished
      rw [rest_eq, hfound]
      simp only [hfinished', if_true, Token.withoutComments, hkind, Bool.false_eq_true, if_false]
      exact ⟨false, rfl⟩
  | case3 l t l' hnext hfinished hlt tokens error? last hrest ih =>
    obtain ⟨start, -, hcall⟩ := next_call h hphase
    rw [hnext] at hcall hskips
    change Call l start (.ok t) l' at hcall
    cases hcall with
    | finish hended => exact absurd ((isFinished_eq l').2 hended) hfinished
    | token hready hsource hconfig hrunning =>
      have hphase' := phase_ne_finished hrunning
      have hkeep' : l'.config.keepComments = true := hconfig ▸ hkeep
      have hlater : ∀ skipped, _ := fun skipped => ih hready hphase' hkeep' skipped
        (skips_next hready hphase' hkeep' _)
      rw [hrest, hsource] at hlater
      cases hskips with
      | comment _ hkind hfound =>
        obtain ⟨newline, hskipping⟩ := hlater (skipped ++ [t])
        rw [crossLines_append, ← rest_congr hfound] at hskipping
        simp only [Token.withoutComments, hkind, if_true]
        exact ⟨newline, hskipping⟩
      | token hkind hfound =>
        obtain ⟨newline, hskipping⟩ := hlater []
        have hskipping : (l'.skipping false).rest = _ := hskipping
        have hrunning' : ¬ (l'.skipping false).isFinished = true := hfinished
        rw [rest_eq, hfound]
        simp only [if_neg hrunning', hskipping, Token.withoutComments, hkind, Bool.false_eq_true,
          if_false]
        exact ⟨newline, rfl⟩

end Lexer

/-- Lexing a file without comments gives what lexing it with them gives, but for the comments: they
are missing from the tokens, and the tokens behind them tell of their line terminators. -/
theorem ofSource_skipComments (source : Source) (config : LexerConfig) :
    LexedFile.ofSource source { config with keepComments := false } =
      { LexedFile.ofSource source { config with keepComments := true } with
        tokens := Token.withoutComments source.contents []
          (LexedFile.ofSource source { config with keepComments := true }).tokens } := by
  have hready := Lexer.ready_ofSource source { config with keepComments := true }
  obtain ⟨newline, hrest⟩ := Lexer.rest_skipping hready nofun rfl []
  have hskipping : (Lexer.ofSource source { config with keepComments := false }).rest = _ := hrest
  simp only [LexedFile.ofSource, hskipping]
  rfl

end Lexis
