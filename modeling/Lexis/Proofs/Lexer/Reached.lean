import Lexis.Proofs.Lexer.Ending

/-!
# Lexers that a caller can have

A caller begins with a fresh lexer and makes demands on it: for tokens, for the items of an
iterator, or to go on with a template at any token at all. However it is used, a lexer that is not
finished still reads the source that it was made for and is ready for the next call
(`Lexer.Reached.readyFor`).
-/

namespace Lexis

theorem Token.text_of_spells {t : Token} {bytes : ByteArray} {text : List Char}
    (h : Utf8.Spells bytes t.offset t.stop text) : t.text bytes = String.ofList text := by
  have hslice : t.span.slice? bytes = some text.utf8Encode := h.slice?_eq
  rw [Token.text, Span.slice, hslice, Option.getD_some, Utf8.lossy, Utf8.fromUTF8?_utf8Encode]

namespace Lexer

/-- The lexers that a caller can have of a source. -/
inductive Reached (source : Source) (config : LexerConfig) : Lexer → Prop
  | fresh : Reached source config (Lexer.ofSource source config)
  | meet {l : Lexer} (h : Reached source config l) (d : Demand) :
      Reached source config (l.meet d).2

/-- A lexer that reads the source under the settings and is ready for the next call. -/
structure ReadyFor (source : Source) (config : LexerConfig) (l : Lexer) : Prop where
  ready : l.Ready
  source_eq : l.source = source
  config_eq : l.config = config

variable {source : Source} {config : LexerConfig} {l : Lexer} {t : Token}

theorem ask_snd (l : Lexer) (iterating : Bool) : (l.ask iterating).2 = l.next.2 := by
  rw [ask_eq]

theorem ReadyFor.next (h : ReadyFor source config l) (hphase : l.phase ≠ .finished) :
    l.next.2.phase = .finished ∨ ReadyFor source config l.next.2 := by
  obtain ⟨start, -, hcall⟩ := next_call h.ready hphase
  generalize l.next.1.mapError Stop.fatal = result at hcall
  cases hcall with
  | token hready hsource hconfig =>
    exact .inr ⟨hready, hsource.trans h.source_eq, hconfig.trans h.config_eq⟩
  | finish hfinished => exact .inl hfinished
  | abort hfinished => exact .inl hfinished

/-- Going on with a template at the wrong place does no harm to the lexer. -/
theorem ReadyFor.rescan (h : ReadyFor source config l) (brace : Token) :
    (l.rescan brace).2.phase = .finished ∨ ReadyFor source config (l.rescan brace).2 := by
  have hends := Scanner.ends_templateContinuation brace.offset { multiLine := true }
    h.ready.cursor.started
  have hrescan := l.rescans brace
  generalize l.rescan brace = found at hrescan ⊢
  cases hrescan with
  | finished | refused => exact .inr h
  | broken => exact .inl (phase_report ..)
  | resumed _ hscan =>
    obtain ⟨⟨passed, hpassed⟩, -⟩ := hends.of_ok hscan
    have hle := (h.ready.cursor.spells hpassed).start_le
    exact .inr ⟨⟨h.ready.cursor.of_passes hpassed, h.ready.tracks, h.ready.reported.mono hle⟩,
      h.source_eq, h.config_eq⟩

/-- Every lexer that a caller has is finished or ready for the next call. -/
theorem Reached.readyFor (h : Reached source config l) :
    l.phase = .finished ∨ ReadyFor source config l := by
  induction h with
  | fresh => exact .inr ⟨ready_ofSource source config, rfl, rfl⟩
  | @meet l _ d ih =>
    by_cases hphase : l.phase = .finished
    · rw [meet_of_finished hphase]
      exact ih
    · have hready := ih.resolve_left hphase
      cases d with
      | next =>
        rw [Lexer.meet, ask_snd]
        exact hready.next hphase
      | iterate =>
        rw [Lexer.meet, ask_snd]
        exact hready.next hphase
      | rescan brace => exact hready.rescan brace

/-- Every token that a caller is handed by a call for the next one has an origin in the source. -/
theorem Reached.origin (h : Reached source config l) (hnext : l.next.1 = .ok t) :
    Origin source t := by
  by_cases hphase : l.phase = .finished
  · rw [next_of_finished hphase] at hnext
    cases hnext
    exact .finish rfl ⟨rfl, rfl⟩
  · have hready := h.readyFor.resolve_left hphase
    rw [← hready.source_eq]
    exact origin_next hready.ready.cursor hnext

end Lexer

end Lexis
