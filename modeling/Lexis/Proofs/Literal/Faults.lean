import Lexis.Proofs.Lexer.Tiling
import Lexis.Proofs.Literal.Agreement
import Lexis.Proofs.Literal.Escapes

/-!
# What can be wrong with a literal of a run

Decoding reads a body by longer units than the scan did, but from the same places on: wherever a
unit of the grammar ends, one of the scan's ends as well (`Denotes.crosses`). A backslash that the
scan has crossed has something behind it, so that what can be wrong with the literal of a token has
been written in it (`driven_decode_eq_error`).
-/

namespace Lexis

open CharClass

/-! ## Units of both kinds -/

namespace QuoteStyle

variable {style : QuoteStyle} {text more rest : List Char} {closer : List Char × Ending}

theorem Crosses.of_isUnit (unit : List Char) (h : style.Crosses (unit ++ more) rest)
    (hunit : style.IsUnit unit (more ++ rest)) : style.Crosses more rest := by
  generalize hall : unit ++ more = all at h
  cases h with
  | nil =>
    rw [(List.append_eq_nil_iff.1 hall).2]
    exact .nil rest
  | @cons unit' passed _ hunit' _ hrest =>
    have heq : unit ++ (more ++ rest) = unit' ++ (passed ++ rest) := by
      rw [← List.append_assoc, hall, List.append_assoc]
    obtain rfl := hunit.unique hunit' heq
    rwa [List.append_cancel_left hall]

theorem Crosses.of_not_mem (h : style.Crosses (text ++ more) rest)
    (htext : ∀ ch ∈ text, ch ≠ '\\') : style.Crosses more rest := by
  induction text with
  | nil => exact h
  | cons ch text ih =>
    rw [List.forall_mem_cons] at htext
    exact ih (Crosses.of_isUnit [ch] h (.single ch _ fun hch => absurd hch htext.1))
      htext.2

theorem exists_mark_of_closing? (h : style.closing? rest = some closer) :
    ∃ mark ∈ style.marks, rest.head? = some mark := by
  cases rest with
  | nil =>
    rw [closing?_of_breaksAt rfl] at h
    cases h
  | cons ch rest =>
    refine ⟨ch, Decidable.byContradiction fun hnot => ?_, rfl⟩
    rw [closing?_cons_eq_none hnot] at h
    cases h

theorem head?_ne_of_closing? (h : style.closing? rest = some closer) : rest.head? ≠ some '\n' := by
  obtain ⟨mark, hmark, hhead⟩ := exists_mark_of_closing? h
  rw [hhead]
  rintro hfeed
  cases hfeed
  cases style <;> simp [marks] at hmark

/-- No body ends in a backslash that escapes nothing: it would escape the closer. -/
theorem not_crosses_backslash (hescapes : style.hasEscapes = true)
    (h : style.closing? rest = some closer) : ¬ style.Crosses ['\\'] rest := by
  intro hcrosses
  generalize hall : ['\\'] = all at hcrosses
  cases hcrosses with
  | nil => cases hall
  | @cons unit passed _ hunit =>
    generalize hbehind : passed ++ rest = behind at hunit
    cases hunit with
    | single ch _ hplain =>
      obtain rfl : '\\' = ch := (List.cons.inj hall).1
      rw [hescapes] at hplain
      cases hplain rfl
    | escape => cases hall
    | lineBreak => cases hall
    | dangling =>
      obtain ⟨mark, -, hhead⟩ := exists_mark_of_closing? h
      rw [(List.append_eq_nil_iff.1 hbehind).2] at hhead
      cases hhead

end QuoteStyle

section Crosses

variable {style : QuoteStyle} {unit denoted passed text more rest : List Char}
  {closer : List Char × Ending}

/-- The scan comes to the end of a unit of the grammar. -/
theorem ContentUnit.crosses (h : ContentUnit unit denoted more) (hescapes : style.hasEscapes = true)
    (hcloser : style.closing? rest = some closer) (hcrosses : style.Crosses (unit ++ more) rest) :
    style.Crosses more rest := by
  have hletter : ∀ {letter : Char} {behind : List Char}, letter ≠ '\r' →
      style.Crosses ('\\' :: letter :: behind) rest → style.Crosses behind rest :=
    fun {letter behind} hne hcrosses =>
      QuoteStyle.Crosses.of_isUnit ['\\', letter] hcrosses
        (.escape letter _ hescapes fun heq => absurd heq hne)
  have hdigit : ∀ digit : HexDigit, digit.char ≠ '\\' := by
    intro digit heq
    have hvalue := HexDigit.digitValue?_char digit
    rw [heq] at hvalue
    cases hvalue
  cases h with
  | plain hch => exact hcrosses.of_isUnit _ (.single _ _ fun heq => absurd heq hch)
  | simple hsimple =>
    rename_i letter ch
    have hall : ∀ pair ∈ simpleEscapes, pair.1 ≠ '\r' := by decide
    exact hletter (hall (letter, ch) hsimple) hcrosses
  | lineBreak => exact hcrosses.of_isUnit _ (.lineBreak _ hescapes)
  | lineEnd hline hnot =>
    refine hcrosses.of_isUnit _ (.escape _ _ hescapes fun heq => ?_)
    cases more with
    | nil => exact QuoteStyle.head?_ne_of_closing? hcloser
    | cons ch more => exact hnot heq
  | @hex high low =>
    have hbehind : style.Crosses ([high.char, low.char] ++ more) rest :=
      hletter (by decide) hcrosses
    apply hbehind.of_not_mem
    rw [List.forall_mem_cons, List.forall_mem_singleton]
    exact ⟨hdigit high, hdigit low⟩
  | @number digits =>
    have hbehind : style.Crosses ('\x7b' :: (digits.map HexDigit.char ++ ['\x7d']) ++ more) rest :=
      hletter (by decide) hcrosses
    exact hbehind.of_not_mem (HexDigit.forall_mem_braces (by decide) hdigit (by decide) digits)

theorem Denotes.crosses (h : Denotes passed text more) (hescapes : style.hasEscapes = true)
    (hcloser : style.closing? rest = some closer) (hcrosses : style.Crosses (passed ++ more) rest) :
    style.Crosses more rest := by
  induction h with
  | nil => exact hcrosses
  | cons hunit _ ih =>
    rw [List.append_assoc] at hcrosses
    exact ih (hunit.crosses hescapes hcloser hcrosses)

theorem Unfit.escapeFault_ne_backslash {behind : List Char} (h : Unfit ('\\' :: behind))
    (hne : behind ≠ []) : escapeFault behind ≠ .invalidEscape '\\' := by
  cases behind with
  | nil => exact absurd rfl hne
  | cons ch behind =>
    have hch : ch ≠ '\\' := by
      rintro rfl
      exact h.no_unit ['\\', '\\'] ['\\'] behind rfl (.simple (by decide))
    rw [escapeFault]
    split_ifs <;> simp [hch]

theorem escapeFault_ne (behind : List Char) :
    (∀ kind, escapeFault behind ≠ .notQuoted kind) ∧ escapeFault behind ≠ .invalidUtf8 := by
  cases behind with
  | nil => simp [escapeFault]
  | cons ch behind =>
    rw [escapeFault]
    split_ifs <;> simp

end Crosses

/-! ## Errors of quoted tokens -/

theorem QuoteStyle.Opens.ne_nil {style : QuoteStyle} {delimiter : List Char}
    (h : style.Opens delimiter) : delimiter ≠ [] := by
  obtain rfl | ⟨-, rfl⟩ := h
  · cases style <;> exact List.cons_ne_nil _ _
  · exact List.cons_ne_nil _ _

namespace Token.Quotes

variable {t : Token} {bytes : ByteArray} {style : QuoteStyle} {delimiter body closer : List Char}
  {e : EscapeError}

theorem spells_bodySpan (h : t.Quotes bytes style delimiter body closer) :
    Utf8.Spells bytes (t.bodySpan bytes).start (t.bodySpan bytes).stop body := by
  have hspells := h.spells
  rw [List.append_assoc] at hspells
  rw [h.bodySpan_eq]
  exact hspells.split.2.split.1

/-- A literal is a character of a wrong length, or no unit fits at some place of its body. -/
theorem error_cases (h : t.Quotes bytes style delimiter body closer)
    (he : t.decode bytes = .error e) :
    (∃ n, e = ⟨t.span, .charLength n⟩) ∨
      style.hasEscapes = true ∧ ∃ passed text behind, body = passed ++ '\\' :: behind ∧
        Denotes passed text ('\\' :: behind) ∧ Unfit ('\\' :: behind) ∧
        Escape.Spoils ((t.bodySpan bytes).start + Utf8.size passed) ('\\' :: behind)
          (escapeFault behind) e := by
  have hlength : ∀ {text : List Char}, t.ofContent text = .error e →
      ∃ n, e = ⟨t.span, .charLength n⟩ := by
    intro text htext
    unfold ofContent at htext
    split_ifs at htext
    exact ⟨_, (Except.error.inj htext).symm⟩
  rw [decode_eq_bind h.isQuoted h.spells_bodySpan, h.raw_eq, QuoteStyle.raw_flags] at he
  cases hescapes : style.hasEscapes with
  | false =>
    rw [hescapes] at he
    exact .inl (hlength he)
  | true =>
    rw [hescapes] at he
    obtain ⟨text, htext⟩ | ⟨passed, text, behind, rfl, htext, hunfit⟩ := denotes_or_isBroken body
    · simp only [Bool.not_true, Bool.false_eq_true, if_false, htext.unescape_eq_ok] at he
      exact .inl (hlength he)
    · obtain ⟨e', hfails, hspoils⟩ := htext.unescape_eq_error hunfit (t.bodySpan bytes).start
      simp only [Bool.not_true, Bool.false_eq_true, if_false, hfails] at he
      cases he
      exact .inr ⟨rfl, passed, text, behind, rfl, htext, hunfit, hspoils⟩

end Token.Quotes

/-! ## Tokens of a run -/

open Utf8 (IsBoundary)

/-- Text that the bytes of the token are made of, and that is not empty. -/
structure Span.IsPartOf (span : Span) (t : Token) (bytes : ByteArray) : Prop where
  nonempty : span.start < span.stop
  start_le : t.offset ≤ span.start
  stop_le : span.stop ≤ t.stop
  boundary_start : IsBoundary bytes span.start
  boundary_stop : IsBoundary bytes span.stop

theorem Span.isPartOf_of_spells {t : Token} {bytes : ByteArray} (before : List Char)
    {covered : List Char} (after : List Char) (hstart : IsBoundary bytes t.offset)
    (hspells : Utf8.Spells bytes t.offset t.stop (before ++ covered ++ after))
    (hne : covered ≠ []) :
    (Span.mk (t.offset + Utf8.size before)
      (t.offset + Utf8.size before + Utf8.size covered)).IsPartOf t bytes := by
  have hstop := hspells.stop_eq
  rw [List.append_assoc] at hspells
  obtain ⟨hbefore, hmore⟩ := hspells.split
  have hlength := Utf8.length_le_size covered
  have hpos := List.length_pos_iff.2 hne
  rw [Utf8.size_append, Utf8.size_append] at hstop
  have hboundary := hstart.of_spells hbefore
  refine ⟨?_, Nat.le_add_right _ _, ?_, hboundary, hboundary.of_spells hmore.split.1⟩
  · exact Nat.lt_add_of_pos_right (Nat.lt_of_lt_of_le hpos hlength)
  · show t.offset + Utf8.size before + Utf8.size covered ≤ t.stop
    omega

theorem Lexer.isBoundary_of_mem_driven {l : Lexer} {t : Token} (h : l.Ready)
    (hphase : l.phase ≠ .finished) (hkind : t.kind ≠ .endOfInput) (choices : List Bool)
    (ht : .ok t ∈ (l.driven choices).1) : IsBoundary l.source.contents t.offset := by
  have hfinished : ∀ {l' : Lexer}, l'.phase = .finished → ∀ choices,
      .ok t ∉ (l'.driven choices).1 := by
    intro l' hended choices hmem
    rw [driven_of_finished hended] at hmem
    cases List.eq_of_mem_replicate hmem
    exact hkind rfl
  induction choices generalizing l with
  | nil => cases ht
  | cons again choices ih =>
    obtain ⟨start, hgap, hcall⟩ := drive_call h hphase again
    have hstart := isBoundary_of_gap h hgap
    rw [driven, List.mem_cons] at ht
    generalize (l.drive again).1 = result at *
    generalize (l.drive again).2 = l' at *
    obtain rfl | hrest := ht
    · cases hcall with
      | token _ _ _ _ _ hoffset => exact hoffset ▸ hstart
      | finish _ hend => exact absurd hend hkind
    · cases hcall with
      | token hready hsource _ hrunning =>
        exact hsource ▸ ih hready (phase_ne_finished hrunning) hrest
      | finish hended => exact absurd hrest (hfinished hended choices)
      | abort hended => exact absurd hrest (hfinished hended choices)

/-- If a literal that a run has returned cannot be decoded, the reason is in its text: it is never
that there is no text, or a backslash with nothing to escape, and what is wrong is a part of it. -/
theorem driven_decode_eq_error (source : Source) (config : LexerConfig) (choices : List Bool)
    (t : Token) (ht : .ok t ∈ ((Lexer.ofSource source config).driven choices).1)
    (hquoted : t.kind.isQuoted = true) (e : EscapeError)
    (he : t.decode source.contents = .error e) :
    (∀ kind, e.kind ≠ .notQuoted kind) ∧ e.kind ≠ .invalidUtf8 ∧ e.kind ≠ .invalidEscape '\\' ∧
      e.span.IsPartOf t source.contents := by
  have hready := Lexer.ready_ofSource source config
  have hkind : t.kind ≠ .endOfInput := by
    intro hend
    rw [hend] at hquoted
    cases hquoted
  have hstart : IsBoundary source.contents t.offset :=
    Lexer.isBoundary_of_mem_driven hready nofun hkind choices ht
  have horigin : Lexer.Origin source t := Lexer.origin_of_mem_driven hready nofun choices ht
  obtain ⟨style, content, hscanned⟩ := horigin.scannedAs hquoted
  obtain ⟨delimiter, body, closer, rest, ending, hquotes, -, hcrosses, hcloser, -⟩ :=
    hscanned.exists_crosses
  have hspells := hquotes.spells
  obtain ⟨n, rfl⟩ | ⟨hescapes, passed, text, behind, rfl, htext, hunfit, hspoils⟩ :=
    hquotes.error_cases he
  · have hne : delimiter ++ body ++ closer ≠ [] :=
      List.append_ne_nil_of_left_ne_nil (List.append_ne_nil_of_left_ne_nil hquotes.opens.ne_nil _) _
    have hpart := Span.isPartOf_of_spells [] [] hstart
      (by rwa [List.append_nil]) hne
    have hspan : t.span = ⟨t.offset, t.offset + Utf8.size (delimiter ++ body ++ closer)⟩ :=
      congrArg (Span.mk t.offset) hspells.stop_eq
    exact ⟨nofun, nofun, nofun, hspan ▸ hpart⟩
  · have hbehind := htext.crosses hescapes hcloser hcrosses
    have hne : behind ≠ [] := by
      rintro rfl
      exact QuoteStyle.not_crosses_backslash hescapes hcloser hbehind
    obtain ⟨covered, ⟨after, hafter⟩, hcovered, rfl⟩ := hspoils
    rw [← hafter] at hspells
    have hpart := Span.isPartOf_of_spells (delimiter ++ passed) (after ++ closer) hstart
      (by simpa using hspells) hcovered
    rw [Utf8.size_append, ← Nat.add_assoc] at hpart
    obtain ⟨hquote, hutf8⟩ := escapeFault_ne behind
    refine ⟨hquote, hutf8, hunfit.escapeFault_ne_backslash hne, ?_⟩
    rw [hquotes.bodySpan_eq]
    exact hpart

/-- A string with a letter that needs no escape. -/
def badLetter : Source := ⟨"letter", "\"\\q\"".toUTF8, 0, by decide⟩

theorem driven_decode_eq_error_badLetter :
    ∃ choices t e, .ok t ∈ ((Lexer.ofSource badLetter {}).driven choices).1 ∧
      t.kind.isQuoted = true ∧ t.decode badLetter.contents = .error e ∧
      e.kind ≠ .invalidEscape '\\' ∧ e.span.IsPartOf t badLetter.contents := by
  let style := QuoteStyle.string
  let body := ['\\', 'q']
  have hsource : badLetter.contents = (style.enclose body).utf8Encode := rfl
  have hcrosses : style.Crosses body style.closing := QuoteStyle.crosses_escape rfl (by decide) _
  obtain ⟨hsingle, hquotes⟩ := QuoteStyle.isSingle_token {} hsource hcrosses
  obtain ⟨n, hresults, -⟩ := LexedFile.exists_driven_eq badLetter {}
  have hmem : .ok (style.token body) ∈
      ((Lexer.ofSource badLetter {}).driven (List.replicate n false)).1 := by
    rw [hresults, LexedFile.results, hsingle.tokens_eq]
    exact List.mem_append_left _ List.mem_cons_self
  have hread : Escape.read 0 ['q'] = .error ⟨⟨0, 2⟩, .invalidEscape 'q'⟩ := rfl
  obtain ⟨e, hfails, -⟩ := (Denotes.nil ['\\', 'q']).unescape_eq_error
    (unfit_of_read_eq_error hread) ((style.token body).bodySpan badLetter.contents).start
  have hdecode : (style.token body).decode badLetter.contents = .error e := by
    rw [Token.decode_eq_bind hquotes.isQuoted hquotes.spells_bodySpan, hquotes.raw_eq]
    exact congrArg (Except.bind · _) hfails
  obtain ⟨-, -, hescape, hpart⟩ := driven_decode_eq_error badLetter {} _ _ hmem rfl e hdecode
  exact ⟨_, _, e, hmem, rfl, hdecode, hescape, hpart⟩

end Lexis
