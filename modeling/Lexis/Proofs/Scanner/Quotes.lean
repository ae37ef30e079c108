import Lexis.Proofs.Scanner.Bodies

/-!
# Quoted literals are recognised

A quoted body passes text up to its closer. If it is broken off instead, its error reaches from the
beginning of the literal to where the text was left.
-/

namespace Lexis.Scanner

variable {c c' : Cursor} {before : List Char}

/-- The error of a body from the cursor on, in a literal that begins at `start`. -/
def BreaksOff (style : QuoteStyle) (start : Nat) (c : Cursor) (e : LexError) : Prop :=
  ∃ passed c', c.Passes passed c' ∧ e = .between style.unterminated start c'.index

theorem BreaksOff.of_passes {style : QuoteStyle} {start : Nat} {e : LexError}
    (h : ∃ passed c', c.Passes passed c' ∧ style.Crosses passed c'.text ∧
      style.breaksAt c'.text = true ∧ e = .between style.unterminated start c'.index) :
    BreaksOff style start c e := by
  obtain ⟨passed, c', hpassed, -, -, he⟩ := h
  exact ⟨passed, c', hpassed, he⟩

/-- An error behind the opening of a literal covers the text up to where it was left. -/
theorem BreaksOff.liesIn {style : QuoteStyle} {start : Nat} {e : LexError}
    (h : BreaksOff style start c e) (hindex : c.index = start + Utf8.size before) :
    e.LiesIn start (before ++ c.text) := by
  obtain ⟨passed, c', hpassed, rfl⟩ := h
  refine ⟨[], before ++ passed, c'.text, ?_, ?_, ?_⟩
  · rw [hpassed.text_eq, List.nil_append, List.append_assoc]
  · rw [Utf8.size_nil, Nat.add_zero, Utf8.size_append, ← Nat.add_assoc, ← hindex,
      ← hpassed.index_eq]
    cases style <;> rfl
  · cases style <;> rfl

theorem problem?_quotedLexeme (kind : TokenKind) (flags : TokenFlags) (text? : Option String) :
    (quotedLexeme kind flags text?).problem? = none := by
  unfold quotedLexeme
  split <;> rfl

theorem kind_quotedLexeme (kind : TokenKind) (flags : TokenFlags) (text? : Option String) :
    (quotedLexeme kind flags text?).kind = kind := by
  unfold quotedLexeme
  split <;> rfl

theorem fits_quotedLexeme {kind : TokenKind} {flags : TokenFlags} {text? : Option String}
    {start stop : Nat} (hkind : kind ≠ .endOfInput) (herror : kind ≠ .syntaxError) :
    (quotedLexeme kind flags text?).Fits start stop := by
  rw [← kind_quotedLexeme kind flags text?] at hkind herror
  exact Lexeme.fits_of_ne hkind herror (problem?_quotedLexeme ..)

theorem recognizes_quoted (style : QuoteStyle) (width : Nat) {kinds : Ending → TokenKind}
    (flags : TokenFlags) (hkinds : ∀ ending, kinds ending ≠ .endOfInput ∧
      kinds ending ≠ .syntaxError) (h : c.Started) :
    Recognizes (quoted style width kinds flags) c := by
  have hopening := Cursor.passes_advanceBy h width
  unfold Recognizes quoted
  simp only [ends_bind, ends_index, ends_skip]
  apply (ends_quotedBody style c.index hopening.started).mono
  · rintro body c' ⟨passed, closer, hpassed, -⟩
    obtain ⟨hend, herror⟩ := hkinds body.1.ending
    exact ends_pure.2 ⟨⟨_, hopening.trans hpassed⟩, fits_quotedLexeme hend herror⟩
  · intro e he
    rw [hopening.text_eq]
    exact (BreaksOff.of_passes he).liesIn hopening.index_eq

theorem recognizes_string (h : c.Started) : Recognizes string c :=
  recognizes_quoted .string 1 {} (fun _ => ⟨nofun, nofun⟩) h

theorem recognizes_tripleString (h : c.Started) : Recognizes tripleString c :=
  recognizes_quoted .tripleString 3 { multiLine := true } (fun _ => ⟨nofun, nofun⟩) h

theorem recognizes_character (h : c.Started) : Recognizes character c :=
  recognizes_quoted .character 1 {} (fun _ => ⟨nofun, nofun⟩) h

theorem recognizes_template (h : c.Started) : Recognizes template c := by
  apply recognizes_quoted .template 1 { multiLine := true } ?_ h
  intro ending
  cases ending <;> exact ⟨nofun, nofun⟩

theorem passes_countHashes (h : c.Started) :
    c.Passes (List.replicate (countHashes c).1 '#') (countHashes c).2 := by
  fun_induction countHashes c with
  | case1 c n c' hcount hcur hlt ih =>
    have hsign := Cursor.passes_advance hcur
    have hrest := ih hsign.started
    rw [hcount] at hrest
    exact hsign.trans hrest
  | case2 => exact .refl h
  | case3 => exact .refl h

/-- In front of a quote, all number signs are counted. -/
theorem countHashes_fst (h : c.Started) {n : Nat} {rest : List Char}
    (htext : c.text = List.replicate n '#' ++ '"' :: rest) : (countHashes c).1 = n := by
  fun_induction countHashes c generalizing n with
  | case1 c count c' hcount hcur hlt ih =>
    have hsign := Cursor.passes_advance hcur
    cases n with
    | zero =>
      have hquote := h.current_of_text_cons htext
      rw [hcur] at hquote
      cases hquote
    | succ n =>
      have hrest := ih hsign.started (hsign.text_eq_of_append htext)
      rw [hcount] at hrest
      exact congrArg Nat.succ hrest
  | case2 c ch hcur hlt hne =>
    cases n with
    | zero => rfl
    | succ n =>
      have hsign := h.current_of_text_cons htext
      rw [hcur] at hsign
      cases hsign
      exact absurd rfl hne
  | case3 c hnot =>
    rw [h.text_of_not_scalar hnot] at htext
    cases n <;> cases htext

theorem passes_rawOpening (h : c.Started) (hmark : ['r'] <+: c.text)
    (hquote : (countHashes (c.advanceBy 1)).2.current = .scalar '"') :
    c.Passes (QuoteStyle.raw (countHashes (c.advanceBy 1)).1).opening
      ((countHashes (c.advanceBy 1)).2.advanceBy 1) := by
  have hfirst := Cursor.passes_advanceBy_length h hmark
  have hsigns := hfirst.trans (passes_countHashes hfirst.started)
  exact hsigns.trans (Cursor.passes_advance hquote)

theorem recognizes_rawString (h : c.Started) : Recognizes rawString c := by
  have hmark := Cursor.passes_advanceBy h 1
  have hsigns := passes_countHashes hmark.started
  have hopening := hmark.trans hsigns
  unfold Recognizes rawString
  simp only [ends_bind, ends_index, ends_skip, ends_modifyGet, ends_current]
  split
  · have hquote := hopening.trans (Cursor.passes_advanceBy hopening.started 1)
    simp only [ends_bind, ends_skip]
    apply (ends_quotedBody _ c.index hquote.started).mono
    · rintro body c' ⟨passed, closer, hpassed, -⟩
      exact ends_pure.2 ⟨⟨_, hquote.trans hpassed⟩, fits_quotedLexeme nofun nofun⟩
    · intro e he
      rw [hquote.text_eq]
      exact (BreaksOff.of_passes he).liesIn hquote.index_eq
  · simp only [ends_bind, ends_index, ends_fail]
    refine ⟨[], c.text.take 1 ++ List.replicate _ '#', _, hopening.text_eq, ?_, rfl⟩
    rw [Utf8.size_nil, Nat.add_zero, ← hopening.index_eq]
    rfl

/-- A template goes on behind the brace at the cursor. -/
theorem ends_templateContinuation (start : Nat) (flags : TokenFlags) (h : c.Started) :
    Ends (templateContinuation start flags) c
      (fun lexeme c' => (∃ passed, c.Passes passed c') ∧ lexeme.problem? = none ∧
        lexeme.Fits start c'.index)
      (BreaksOff .template start c) := by
  unfold templateContinuation
  simp only [ends_bind]
  apply (ends_quotedBody .template start h).mono ?_ fun _ he => .of_passes he
  rintro body c' ⟨passed, closer, hpassed, -⟩
  refine ends_pure.2 ⟨⟨_, hpassed⟩, problem?_quotedLexeme .., ?_⟩
  cases body.1.ending <;> exact fits_quotedLexeme nofun nofun

/-! ## Scans that succeed -/

section Success

variable {lexeme : Lexeme}

theorem quotedBody_bind_eq_ok_iff {style : QuoteStyle} {start : Nat}
    {finish : QuotedBody × Option String → Lexeme} :
    (quotedBody style start >>= fun found => pure (finish found)) c = .ok lexeme c' ↔
      ∃ body text?, quotedBody style start c = .ok (body, text?) c' ∧
        finish (body, text?) = lexeme := by
  rw [bind_eq_ok_iff]
  constructor
  · rintro ⟨⟨body, text?⟩, _, hbody, ⟨⟩⟩
    exact ⟨body, text?, hbody, rfl⟩
  · rintro ⟨body, text?, hbody, rfl⟩
    exact ⟨_, _, hbody, rfl⟩

theorem quoted_eq_ok_iff {style : QuoteStyle} {width : Nat} {kinds : Ending → TokenKind}
    {flags : TokenFlags} : quoted style width kinds flags c = .ok lexeme c' ↔
      ∃ body text?, quotedBody style c.index (c.advanceBy width) = .ok (body, text?) c' ∧
        quotedLexeme (kinds body.ending) flags text? = lexeme :=
  quotedBody_bind_eq_ok_iff

theorem templateContinuation_eq_ok_iff {start : Nat} {flags : TokenFlags} :
    templateContinuation start flags c = .ok lexeme c' ↔
      ∃ body text?, quotedBody .template start c = .ok (body, text?) c' ∧
        quotedLexeme (continuationKind body.ending) flags text? = lexeme :=
  quotedBody_bind_eq_ok_iff

theorem rawString_eq_ok_iff {signs : Nat × Cursor} (hsigns : countHashes (c.advanceBy 1) = signs) :
    rawString c = .ok lexeme c' ↔
      signs.2.current = .scalar '"' ∧
        ∃ body text?, quotedBody (.raw signs.1) c.index (signs.2.advanceBy 1) =
            .ok (body, text?) c' ∧
          quotedLexeme .stringLiteral { raw := true } text? = lexeme := by
  have hquote : signs.2.current.is '"' = true ↔ signs.2.current = .scalar '"' := beq_iff_eq
  have hscan : rawString c =
      (if signs.2.current.is '"' then do
          skip 1
          let found ← quotedBody (.raw signs.1) c.index
          return quotedLexeme .stringLiteral { raw := true } found.2
        else do fail (.between .invalidRawStringStart c.index (← index)) : Scanner Lexeme)
        signs.2 := by
    rw [← hsigns]
    rfl
  rw [hscan, ← hquote]
  split
  · rename_i his
    rw [and_iff_right his]
    exact quotedBody_bind_eq_ok_iff
  · rename_i his
    exact ⟨nofun, fun h => absurd h.1 his⟩

end Success

end Lexis.Scanner
