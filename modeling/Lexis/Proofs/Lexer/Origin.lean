import Lexis.Proofs.Lexer.Driven
import Lexis.Proofs.Scanner.Kinds

/-!
# Where tokens come from

A token of a run has been scanned from the place where its opening was recognised, or it goes on
with a template from a brace in the place of which it is returned. The end and the first line of a
script are the only others (`Origin`).
-/

namespace Lexis

/-- The token has no value, and its flags tell no more than what stands in front of it. -/
structure Token.Unmarked (t : Token) : Prop where
  flags_eq : t.flags = { newlineBefore := t.flags.newlineBefore }
  value?_eq : t.value? = none

namespace Lexer

inductive Origin (source : Source) : Token → Prop
  | finish {t : Token} (hkind : t.kind = .endOfInput) (hunmarked : t.Unmarked) : Origin source t
  | script {t : Token} (hkind : t.kind = .hashbang) (hunmarked : t.Unmarked) : Origin source t
  | scan {c c' : Cursor} {ch : Char} {lexeme : Lexeme} (hat : At source c)
      (hcur : c.current = .scalar ch) (hscan : scanAt c ch = .ok lexeme c') (newline : Bool) :
      Origin source (tokenOf lexeme c.index newline c')
  | rescan {start : Nat} {c c' : Cursor} {lexeme : Lexeme} (hat : At source c)
      (hbrace : Utf8.Spells source.contents start c.index ['\x7d'])
      (hscan : Scanner.templateContinuation start { multiLine := true } c = .ok lexeme c')
      (newline : Bool) : Origin source (tokenOf lexeme start newline c')

variable {source : Source} {l l' : Lexer} {t : Token}

theorem kind_templateContinuation {start : Nat} {flags : TokenFlags} {c c' : Cursor}
    {lexeme : Lexeme} (hscan : Scanner.templateContinuation start flags c = .ok lexeme c') :
    lexeme.kind = .templateTail ∨ lexeme.kind = .templateMiddle := by
  have hyields : Scanner.Yields (Scanner.templateContinuation start flags) fun lexeme =>
      lexeme.kind = .templateTail ∨ lexeme.kind = .templateMiddle := by
    unfold Scanner.templateContinuation
    refine .bind fun body => Scanner.yields_pure ?_
    rw [Scanner.kind_quotedLexeme]
    cases body.1.ending with
    | closed => exact .inl rfl
    | interpolation => exact .inr rfl
  exact (hyields c).of_ok hscan

/-- Tokens of all but a few kinds have been scanned from the place of their opening. -/
theorem Origin.exists_scan (h : Origin source t)
    (hkind : t.kind ∉ [TokenKind.endOfInput, .hashbang, .templateMiddle, .templateTail]) :
    ∃ c c' ch lexeme newline, At source c ∧ c.current = .scalar ch ∧
      scanAt c ch = .ok lexeme c' ∧ t = tokenOf lexeme c.index newline c' := by
  cases h with
  | finish hend => exact absurd (by simp [hend]) hkind
  | script hscript => exact absurd (by simp [hscript]) hkind
  | scan hat hcur hscan newline => exact ⟨_, _, _, _, newline, hat, hcur, hscan, rfl⟩
  | rescan hat hbrace hscan newline =>
    obtain hend | hend := kind_templateContinuation hscan
    · exact absurd (by simp [tokenOf, hend]) hkind
    · exact absurd (by simp [tokenOf, hend]) hkind

/-- The text of an operator is its spelling. -/
theorem Origin.spells_operator {op : Operator} (h : Origin source t)
    (hkind : t.kind = .operator op) :
    Utf8.Spells source.contents t.offset t.stop op.spelling.toList := by
  obtain ⟨c, c', ch, lexeme, newline, hat, hcur, hscan, rfl⟩ := h.exists_scan (by simp [hkind])
  have hopening := opening_of_operator hscan hkind
  have hbegins := begins_text hcur
  have hahead := Cursor.passes_lookahead (.of_scalar hcur) 3
  rw [hopening, ← hahead.text_eq_of_nil] at hbegins
  have hpass := hahead.trans (Cursor.passes_advanceBy_length hahead.started hbegins)
  rw [String.length_toList] at hpass
  rw [scanAt, hopening] at hscan
  have hend : (c.lookahead 3).2.advanceBy op.spelling.length = c' := by
    cases hscan
    rfl
  rw [hend] at hpass
  have hspells := hat.spells hpass
  rwa [← stop_tokenOf hspells.start_le newline] at hspells

/-! ## Every token of a run has an origin -/

theorem at_skipWhitespace {newline newline' : Bool} {c c' : Cursor} (h : At source c)
    (hskip : skipWhitespace newline c = (newline', c')) : At source c' := by
  obtain ⟨gap, hgap, -⟩ := passes_skipWhitespace newline h.started
  rw [hskip] at hgap
  exact h.of_passes hgap

theorem origin_scan (h : At l.source l.cursor) (hscan : l.scan.1 = .ok t) :
    Origin l.source t := by
  fun_induction scan l with
  | case1 => cases hscan
  | case2 l newline c hskip ch hcur lexeme c' hfound hlt hcomment ih =>
    have hat := at_skipWhitespace h hskip
    obtain ⟨⟨passed, -, hpassed⟩, hfits⟩ := scanAt_ok hcur hfound
    have hkind := (Bool.and_eq_true_iff.1 hcomment).1
    rw [accept_of_none (problem?_eq_none_of_isComment hfits hkind)] at ih hscan
    exact ih (hat.of_passes hpassed) hscan
  | case3 l newline c hskip ch hcur lexeme c' hfound hlt hcomment =>
    cases hscan
    exact .scan (at_skipWhitespace h hskip) hcur hfound newline
  | case4 =>
    cases hscan
    exact .finish rfl ⟨rfl, rfl⟩

theorem origin_next (h : At l.source l.cursor) (hnext : l.next.1 = .ok t) :
    Origin l.source t := by
  unfold next at hnext
  split at hnext
  · cases hnext
    exact .finish rfl ⟨rfl, rfl⟩
  · exact origin_scan h hnext
  · have hahead := Cursor.passes_startsWith h.started ['#', '!']
    unfold first at hnext
    simp only at hnext
    split at hnext
    · unfold scanHashbang at hnext
      cases hnext
      exact .script rfl ⟨rfl, rfl⟩
    · exact origin_scan (l := { l with
        cursor := (l.cursor.startsWith ['#', '!']).2
        phase := .scanning }) (h.of_passes hahead) hnext

theorem origin_rescan {brace : Token} (h : At l.source l.cursor)
    (hbrace : Utf8.Spells l.source.contents brace.offset l.cursor.index ['\x7d'])
    (hscan : (l.rescan brace).1 = .ok t) : Origin l.source t := by
  have hrescan := l.rescans brace
  generalize l.rescan brace = found at hrescan hscan
  cases hrescan with
  | finished =>
    cases hscan
    exact .finish rfl ⟨rfl, rfl⟩
  | refused | broken => cases hscan
  | resumed _ hfound =>
    cases hscan
    exact .rescan h hbrace hfound _

theorem origin_drive (h : l.Ready) (hphase : l.phase ≠ .finished) {again : Bool}
    (hdrive : (l.drive again).1 = .ok t) : Origin l.source t := by
  obtain ⟨start, -, hcall⟩ := next_call h hphase
  have hcases := l.drives again
  generalize l.drive again = found at hcases hdrive
  cases hcases with
  | broken => cases hdrive
  | returned hnext =>
    cases hdrive
    exact origin_next h.cursor (congrArg Prod.fst hnext)
  | @resumed brace l' hnext _ hkind =>
    -- The brace was scanned as an operator, so that its span spells a brace.
    have hspells := (origin_next h.cursor (congrArg Prod.fst hnext)).spells_operator hkind
    rw [hnext] at hcall
    change Call l start (.ok brace) l' at hcall
    cases hcall with
    | finish _ hend => cases hkind.symm.trans hend
    | token hready hsource _ _ _ _ hstop =>
      rw [hstop, ← hsource] at hspells
      exact hsource ▸ origin_rescan hready.cursor hspells hdrive

theorem origin_of_mem_finished (h : l.phase = .finished) {choices : List Bool}
    (ht : .ok t ∈ (l.driven choices).1) : Origin source t := by
  rw [driven_of_finished h] at ht
  cases List.eq_of_mem_replicate ht
  exact .finish rfl ⟨rfl, rfl⟩

/-- Whatever a caller chooses, every token of a run has an origin in the source. -/
theorem origin_of_mem_driven (h : l.Ready) (hphase : l.phase ≠ .finished) (choices : List Bool)
    (ht : .ok t ∈ (l.driven choices).1) : Origin l.source t := by
  induction choices generalizing l with
  | nil => cases ht
  | cons again choices ih =>
    rw [driven, List.mem_cons] at ht
    obtain hfirst | hrest := ht
    · exact origin_drive h hphase hfirst.symm
    · obtain ⟨start, -, hcall⟩ := drive_call h hphase again
      generalize (l.drive again).1 = result at *
      generalize (l.drive again).2 = l' at *
      cases hcall with
      | token hready hsource _ hrunning =>
        exact hsource ▸ ih hready (phase_ne_finished hrunning) hrest
      | finish hended => exact origin_of_mem_finished hended hrest
      | abort hended => exact origin_of_mem_finished hended hrest

end Lexer

end Lexis
