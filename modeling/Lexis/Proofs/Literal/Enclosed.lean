import Lexis.Proofs.Lexer.Single
import Lexis.Proofs.Literal.Delimiters
import Lexis.Proofs.Scanner.Kinds

/-!
# Enclosed bodies

A source that is a body between the delimiters of a style is a single token, if a scan of the body
comes to the closing delimiter and not to an end before (`QuoteStyle.isSingle_token`). The token
has its value at once unless the body has to be decoded.
-/

namespace Lexis

open CharClass

open Scanner (quotedLexeme)

namespace QuoteStyle

/-- In front of its closing quote, a string does not look like one with three quotes. -/
theorem opening_string (h : QuoteStyle.string.Crosses body ['"']) :
    Opening.of '"' ((body ++ ['"']).take 3) = .string := by
  cases body with
  | nil => rfl
  | cons ch body =>
    have hlive := (h.live (List.cons_ne_nil ch body)).2
    have hne : ch ≠ '"' := by
      rintro rfl
      cases hlive
    simp only [List.cons_append, List.take_succ_cons]
    unfold Opening.of
    split <;> simp_all

theorem opening_raw (hashes : Nat) (text : List Char) :
    Opening.of 'r' ((List.replicate hashes '#' ++ '"' :: text).take 3) = .rawString := by
  match hashes with
  | 0 => rfl
  | 1 => rfl
  | hashes + 2 => rfl

end QuoteStyle

namespace Lexer

variable {c : Cursor} {ch : Char} {style : QuoteStyle} {text body rest closer : List Char}
  {ending : Ending}

/-- A body that is crossed up to a closer is scanned behind an opening of its style. -/
theorem scanAt_of_style? (h : c.Started) (htext : c.text = ch :: text)
    (hstyle : (Opening.of ch (text.take 3)).style? = some style)
    (hbody : c.text = style.opening ++ (body ++ rest)) (hcrosses : style.Crosses body rest)
    (hcloser : style.closing? rest = some (closer, ending)) :
    ∃ c', scanAt c ch = .ok (quotedLexeme (style.kind ending) style.flags (style.value? body)) c' ∧
      c.Passes (style.opening ++ (body ++ closer)) c' := by
  have hahead := Cursor.passes_lookahead h 3
  have hbegins : style.opening <+: (c.lookahead 3).2.text := by
    rw [hahead.text_eq_of_nil, hbody]
    exact List.prefix_append ..
  have hopening := Cursor.passes_advanceBy_length hahead.started hbegins
  have htext' := hopening.text_eq_of_append (hahead.text_eq_of_nil.trans hbody)
  obtain ⟨found, c', hfound, hpass, hending⟩ := Scanner.quotedBody_of_crosses
    (c.lookahead 3).2.index hopening.started htext' hcrosses hcloser
  refine ⟨c', ?_, hahead.trans (hopening.trans hpass)⟩
  have hupcoming : (c.lookahead 3).1 = text.take 3 := by
    rw [c.lookahead_fst, h.upcoming_eq_tail, htext, List.tail_cons]
  rw [scanAt, hupcoming, Opening.scanner_of_style? hstyle, Scanner.quoted_eq_ok_iff]
  exact ⟨found, _, hfound, by rw [hending]⟩

theorem scanAt_of_rawString {hashes : Nat} (h : c.Started)
    (hbody : c.text = (QuoteStyle.raw hashes).opening ++ (body ++ rest))
    (hcrosses : (QuoteStyle.raw hashes).Crosses body rest)
    (hcloser : (QuoteStyle.raw hashes).closing? rest = some (closer, ending)) :
    ∃ c', scanAt c 'r' =
        .ok (quotedLexeme .stringLiteral { raw := true } ((QuoteStyle.raw hashes).value? body)) c' ∧
      c.Passes ((QuoteStyle.raw hashes).opening ++ (body ++ closer)) c' := by
  have htext : c.text = 'r' :: (List.replicate hashes '#' ++ '"' :: (body ++ rest)) := by
    rw [hbody, QuoteStyle.opening, List.append_assoc]
    rfl
  have hahead := Cursor.passes_lookahead h 3
  have hmark : ['r'] <+: (c.lookahead 3).2.text := by
    rw [hahead.text_eq_of_nil, htext]
    exact List.cons_prefix_cons.2 ⟨rfl, List.nil_prefix⟩
  have hfirst := Cursor.passes_advanceBy_length hahead.started hmark
  have hbehind := hfirst.text_eq_of_append (hahead.text_eq_of_nil.trans htext)
  have hcount := Scanner.countHashes_fst hfirst.started hbehind
  have hsigns := Scanner.passes_countHashes hfirst.started
  rw [hcount] at hsigns
  have hquote := hsigns.started.current_of_text_cons (hsigns.text_eq_of_append hbehind)
  have hopening := Scanner.passes_rawOpening hahead.started hmark hquote
  rw [← hcount] at hbody hcrosses hcloser ⊢
  have hentry := hopening.text_eq_of_append (hahead.text_eq_of_nil.trans hbody)
  obtain ⟨found, c', hfound, hpass, -⟩ := Scanner.quotedBody_of_crosses
    (c.lookahead 3).2.index hopening.started hentry hcrosses hcloser
  refine ⟨c', ?_, hahead.trans (hopening.trans hpass)⟩
  have hupcoming :
      (c.lookahead 3).1 = (List.replicate hashes '#' ++ '"' :: (body ++ rest)).take 3 := by
    rw [c.lookahead_fst, h.upcoming_eq_tail, htext, List.tail_cons]
  rw [scanAt, hupcoming, QuoteStyle.opening_raw]
  exact (Scanner.rawString_eq_ok_iff rfl).2 ⟨hquote, found, _, hfound, rfl⟩

theorem scanAt_enclose (h : c.Started) (htext : c.text = ch :: text)
    (henclose : ch :: text = style.enclose body) (hcrosses : style.Crosses body style.closing) :
    ∃ c', scanAt c ch =
        .ok (quotedLexeme (style.kind .closed) style.flags (style.value? body)) c' ∧
      c.Passes (ch :: text) c' := by
  have hbody : c.text = style.opening ++ (body ++ style.closing) := by
    rw [htext, henclose, QuoteStyle.enclose, List.append_assoc]
  have hcloser := style.closing?_closing
  rw [henclose, QuoteStyle.enclose, List.append_assoc]
  cases style with
  | raw hashes =>
    obtain rfl : 'r' = ch := (List.cons.inj henclose).1.symm
    exact scanAt_of_rawString h hbody hcrosses hcloser
  | string =>
    obtain ⟨rfl, rfl⟩ := List.cons.inj henclose
    have hstyle := QuoteStyle.opening_string hcrosses
    exact scanAt_of_style? h htext (congrArg Opening.style? hstyle) hbody hcrosses hcloser
  | tripleString | character | template =>
    obtain ⟨rfl, rfl⟩ := List.cons.inj henclose
    exact scanAt_of_style? h htext rfl hbody hcrosses hcloser

end Lexer

namespace QuoteStyle

variable {style : QuoteStyle} {body : List Char}

/-- The token that the literal with the given body is at the beginning of a source. -/
def token (style : QuoteStyle) (body : List Char) : Token :=
  let lexeme := quotedLexeme (style.kind .closed) style.flags (style.value? body)
  { kind := lexeme.kind
    offset := 0
    len := Utf8.size (style.enclose body)
    flags := lexeme.flags
    value? := lexeme.value? }

theorem kind_token : (style.token body).kind = style.kind .closed := Scanner.kind_quotedLexeme ..

theorem tokenOf_eq_token {c : Cursor} (h : c.index = Utf8.size (style.enclose body)) :
    Lexer.tokenOf (quotedLexeme (style.kind .closed) style.flags (style.value? body)) 0 false c =
      style.token body := by
  have hflags : ∀ flags : TokenFlags, flags.union { newlineBefore := false } = flags := by
    intro flags
    simp [TokenFlags.union]
  rw [Lexer.tokenOf, token, hflags, h, Nat.sub_zero]

/-- An enclosed body that is crossed as a whole is a single token. -/
theorem isSingle_token {source : Source} (config : LexerConfig)
    (hsource : source.contents = (style.enclose body).utf8Encode)
    (hcrosses : style.Crosses body style.closing) :
    (LexedFile.ofSource source config).IsSingle source (style.token body) ∧
      (style.token body).Quotes source.contents style style.opening body style.closing := by
  obtain ⟨ch, text, henclose, hblank, hsharp⟩ : ∃ ch text, ch :: text = style.enclose body ∧
      isWhitespace ch = false ∧ ch ≠ '#' := by
    cases style <;> exact ⟨_, _, rfl, by decide, by decide⟩
  have hcomment : (style.kind .closed).isComment = false := by cases style <;> rfl
  rw [← henclose] at hsource
  obtain ⟨c', hspells, hsingle⟩ := LexedFile.isSingle_ofSource config hsource hblank hsharp
    (fun c h htext => Lexer.scanAt_enclose h htext henclose hcrosses)
    (by rw [Scanner.kind_quotedLexeme, hcomment]) (Scanner.problem?_quotedLexeme ..)
  rw [henclose] at hspells
  rw [← tokenOf_eq_token (hspells.stop_eq.trans (Nat.zero_add _))]
  refine ⟨hsingle, ?_⟩
  exact Lexer.quotes_tokenOf hspells (.inl rfl) style.closing_mem_closers (style.isQuoted_kind _)
    (style.kind_eq_charLiteral_iff _) _ _

end QuoteStyle

end Lexis
