import Lexis.Proofs.Lexer.Resumption
import Lexis.Proofs.Location.Spelled
import Lexis.Proofs.Scanner.Lines

/-!
# Line terminators in front of tokens

A token tells whether a line terminator stands between the token before it and itself, be it in
whitespace or in comments that have been skipped (`driven_tellsLines`). The end that is returned
behind an error is of no place and tells nothing.
-/

namespace Lexis

open CharClass

/-- From an offset on, up to the first end, each token tells whether there is a line terminator
between the token before it and itself. -/
def TellsLines (bytes : ByteArray) : (offset : Nat) → List (Except Stop Token) → Prop
  | _, [] => True
  | offset, .error _ :: results => TellsLines bytes offset results
  | offset, .ok t :: results =>
    (t.flags.newlineBefore = true ↔ HasTerminator bytes offset t.offset) ∧
      (t.kind ≠ .endOfInput → TellsLines bytes t.stop results)

namespace Lexer

variable {l l' : Lexer} {t : Token}

/-- The token behind the text that the lexer has skipped tells whether a line terminator was in
it. -/
def TellsGap (l : Lexer) (t : Token) : Prop :=
  ∃ gap, Utf8.Spells l.source.contents l.cursor.index t.offset gap ∧
    t.flags.newlineBefore = (l.newlineBefore || gap.any isLineTerminator)

theorem TellsGap.iff_hasTerminator (h : l.TellsGap t) (hnewline : l.newlineBefore = false) :
    t.flags.newlineBefore = true ↔
      HasTerminator l.source.contents l.cursor.index t.offset := by
  obtain ⟨gap, hspells, hflag⟩ := h
  rw [hasTerminator_of_spells hspells, hflag, hnewline, Bool.false_or]

theorem newlineBefore_tokenOf {lexeme : Lexeme} (h : lexeme.flags.newlineBefore = false)
    (start : Nat) (newline : Bool) (c : Cursor) :
    (tokenOf lexeme start newline c).flags.newlineBefore = newline := by
  show (lexeme.flags.newlineBefore || newline) = newline
  rw [h, Bool.false_or]

theorem tellsGap_scan (h : At l.source l.cursor) (hscan : l.scan.1 = .ok t) : l.TellsGap t := by
  fun_induction scan l with
  | case1 => cases hscan
  | case2 l newline c hskip ch hcur lexeme c' hfound hlt hcomment ih =>
    obtain ⟨hgap, hnewline⟩ := skipWhitespace_eq l.newlineBefore h.started
    rw [hskip] at hgap hnewline
    have hkind := (Bool.and_eq_true_iff.1 hcomment).1
    obtain ⟨-, hfits⟩ := scanAt_ok hcur hfound
    obtain ⟨passed, hpassed, hcrosses⟩ := crossesLine_of_scanAt hcur hfound hkind
    rw [accept_of_none (problem?_eq_none_of_isComment hfits hkind)] at ih hscan
    have hbehind := hgap.trans hpassed
    obtain ⟨rest, hspells, hflag⟩ := ih (h.of_passes hbehind) hscan
    refine ⟨_, (h.spells hbehind).append hspells, ?_⟩
    have hnewline : newline = _ := hnewline
    rw [hflag, hcrosses, hnewline, List.any_append, List.any_append]
    simp only [Bool.or_assoc]
  | case3 l newline c hskip ch hcur lexeme c' hfound hlt hcomment =>
    obtain ⟨hgap, hnewline⟩ := skipWhitespace_eq l.newlineBefore h.started
    rw [hskip] at hgap hnewline
    cases hscan
    refine ⟨_, h.spells hgap, ?_⟩
    rw [newlineBefore_tokenOf (bare_of_scanAt hfound).newlineBefore_eq]
    exact hnewline
  | case4 l newline c hskip hnot =>
    obtain ⟨hgap, hnewline⟩ := skipWhitespace_eq l.newlineBefore h.started
    rw [hskip] at hgap hnewline
    cases hscan
    refine ⟨_, h.spells hgap, ?_⟩
    rw [newlineBefore_tokenOf rfl]
    exact hnewline

theorem tellsGap_next (h : l.Ready) (hphase : l.phase ≠ .finished) (hnext : l.next.1 = .ok t) :
    l.TellsGap t := by
  cases hp : l.phase with
  | finished => exact absurd hp hphase
  | scanning =>
    rw [next_of_scanning hp] at hnext
    exact tellsGap_scan h.cursor hnext
  | start =>
    rw [next_of_start hp] at hnext
    have hindex : l.begun.cursor.index = l.cursor.index := (passes_begun h).index_eq_of_nil
    split at hnext
    · unfold scanHashbang at hnext
      cases hnext
      refine ⟨[], hindex ▸ .refl (ready_begun h).cursor.boundary.1, ?_⟩
      rw [newlineBefore_tokenOf rfl]
      exact (Bool.or_false _).symm
    · obtain ⟨gap, hspells, hflag⟩ := tellsGap_scan (l := l.begun) (ready_begun h).cursor hnext
      rw [hindex] at hspells
      exact ⟨gap, hspells, hflag⟩

/-- What is returned in place of a brace tells what the brace has told. -/
theorem newlineBefore_rescan_eq {brace : Token} (hphase : l.phase = .scanning)
    (hrescan : (l.rescan brace).1 = .ok t) :
    t.offset = brace.offset ∧ t.flags.newlineBefore = brace.flags.newlineBefore := by
  have hcases := l.rescans brace
  generalize l.rescan brace = found at hcases hrescan
  cases hcases with
  | finished hfinished => exact absurd hfinished (phase_ne_finished hphase)
  | refused | broken => cases hrescan
  | resumed _ hscan =>
    cases hrescan
    have hbare := (Scanner.bare_templateContinuation brace.offset _).of_ok hscan
    exact ⟨rfl, newlineBefore_tokenOf hbare.newlineBefore_eq _ _ _⟩

theorem tellsGap_drive (h : l.Ready) (hphase : l.phase ≠ .finished) {again : Bool}
    (hdrive : (l.drive again).1 = .ok t) : l.TellsGap t := by
  obtain ⟨start, -, hcall⟩ := next_call h hphase
  have hcases := l.drives again
  generalize l.drive again = found at hcases hdrive
  cases hcases with
  | broken => cases hdrive
  | returned hnext =>
    cases hdrive
    exact tellsGap_next h hphase (congrArg Prod.fst hnext)
  | @resumed brace l' hnext _ hkind =>
    obtain ⟨gap, hspells, hflag⟩ := tellsGap_next h hphase (congrArg Prod.fst hnext)
    rw [hnext] at hcall
    change Call l start (.ok brace) l' at hcall
    cases hcall with
    | finish _ hend => cases hkind.symm.trans hend
    | token _ _ _ hrunning =>
      obtain ⟨hoffset, hsame⟩ := newlineBefore_rescan_eq hrunning hdrive
      exact ⟨gap, hoffset ▸ hspells, hsame.trans hflag⟩

theorem tellsLines_driven (h : l.Ready) (hphase : l.phase ≠ .finished)
    (hnewline : l.newlineBefore = false) (choices : List Bool) :
    TellsLines l.source.contents l.cursor.index (untilEnd (l.driven choices).1) := by
  induction choices generalizing l with
  | nil => trivial
  | cons again choices ih =>
    obtain ⟨start, -, hcall⟩ := drive_call h hphase again
    have hbetween := newlineBefore_drive l again
    have hgap : ∀ t, (l.drive again).1 = .ok t → l.TellsGap t := fun _ => tellsGap_drive h hphase
    rw [driven]
    generalize (l.drive again).1 = result at *
    generalize (l.drive again).2 = l' at *
    cases hcall with
    | @token t _ _ hready hsource _ hrunning hkind _ hstop =>
      rw [untilEnd_of_ne hkind]
      have hrest := ih hready (phase_ne_finished hrunning) (hbetween hrunning)
      rw [hsource, ← hstop] at hrest
      exact ⟨(hgap t rfl).iff_hasTerminator hnewline, fun _ => hrest⟩
    | @finish t _ _ hkind =>
      rw [untilEnd_of_end hkind]
      exact ⟨(hgap t rfl).iff_hasTerminator hnewline, fun hne => absurd hkind hne⟩
    | abort => trivial

/-- The end that is returned behind an error tells nothing. -/
theorem silent_behind_error (h : l.Ready) (hphase : l.phase ≠ .finished) {choices : List Bool}
    {before behind : List (Except Stop Token)} {stop : Stop}
    (hresults : (l.driven choices).1 = before ++ .error stop :: behind) (ht : .ok t ∈ behind) :
    t.kind = .endOfInput ∧ t.flags.newlineBefore = false := by
  have hended : ∀ {l' : Lexer}, l'.phase = .finished → ∀ {choices result},
      result ∈ (l'.driven choices).1 → result = .ok l'.endToken := by
    intro l' hfinished choices result hmem
    rw [driven_of_finished hfinished] at hmem
    exact List.eq_of_mem_replicate hmem
  induction choices generalizing l before with
  | nil => exact absurd hresults.symm (List.append_ne_nil_of_right_ne_nil _ (List.cons_ne_nil _ _))
  | cons again choices ih =>
    obtain ⟨start, -, hcall⟩ := drive_call h hphase again
    rw [driven] at hresults
    generalize (l.drive again).1 = result at *
    generalize (l.drive again).2 = l' at *
    cases before with
    | nil =>
      obtain ⟨rfl, rfl⟩ := List.cons.inj hresults
      cases hcall with
      | abort hfinished =>
        cases hended hfinished ht
        exact ⟨rfl, rfl⟩
    | cons first before =>
      obtain ⟨-, hrest⟩ := List.cons.inj hresults
      have herror : .error stop ∈ (l'.driven choices).1 := by
        rw [hrest]
        exact List.mem_append_right _ List.mem_cons_self
      cases hcall with
      | token hready _ _ hrunning => exact ih hready (phase_ne_finished hrunning) hrest
      | finish hfinished | abort hfinished => cases hended hfinished herror

end Lexer

/-- Every token of a driven run, up to the first end or error, tells whether there is a line
terminator between the token before it and itself. The end that is returned behind an error is of no
place and does not tell of what the error has left out. -/
theorem driven_tellsLines (source : Source) (config : LexerConfig) (choices : List Bool) :
    TellsLines source.contents 0
        (untilEnd ((Lexer.ofSource source config).driven choices).1) ∧
      ∀ before stop behind t, ((Lexer.ofSource source config).driven choices).1 =
          before ++ .error stop :: behind → .ok t ∈ behind →
        t.kind = .endOfInput ∧ t.flags.newlineBefore = false := by
  have hready := Lexer.ready_ofSource source config
  have hindex : (Lexer.ofSource source config).cursor.index = 0 :=
    (Lexer.At.ofSource source config.lookaheadCapacity).2
  have htells := Lexer.tellsLines_driven hready nofun rfl choices
  rw [hindex] at htells
  exact ⟨htells, fun _ _ _ _ hresults ht => Lexer.silent_behind_error hready nofun hresults ht⟩

/-- A string that a line terminator breaks off. -/
def brokenString : Source := ⟨"broken", "\"a\nb".toUTF8, 0, by decide⟩

/-- The end behind the error does not tell of the line terminator at which the string breaks off. -/
theorem not_tellsLines_brokenString : ¬ TellsLines brokenString.contents 0
    ((Lexer.ofSource brokenString {}).driven [false, false]).1 := by
  let last : Token := { kind := .endOfInput, offset := 4, len := 0 }
  have hresults : ((Lexer.ofSource brokenString {}).driven [false, false]).1 =
      [.error (.fatal (.between .unterminatedString 0 2)), .ok last] := by
    decide +kernel
  have hterminator : HasTerminator brokenString.contents 0 last.offset := by decide +kernel
  rw [hresults]
  rintro ⟨hflag, -⟩
  exact absurd (hflag.2 hterminator) (by decide)

end Lexis
