import Lexis.Proofs.Lexer.Origin
import Lexis.Proofs.Lexer.Reports
import Lexis.Proofs.Literal.Enclosed
import Lexis.Proofs.Literal.Writing

/-!
# Values agree with decoding

The lexer gives a literal its value at once if there is nothing to decode, and leaves it to
`Token.decode` otherwise. Both are about the same body: the delimiters that decoding finds again are
the ones between which the scan found it (`Token.ScannedAs.bodySpan_eq`).
-/

namespace Lexis

open CharClass

open Scanner (quotedBody quotedLexeme)

/-- The token was made of a literal of the style, and the span is what the scan took for its
body. -/
inductive Token.ScannedAs (source : Source) (style : QuoteStyle) : Span → Token → Prop
  | mk {start : Nat} {delimiter : List Char} {entry c' : Cursor} {body : QuotedBody}
      {text? : Option String} {kind : TokenKind} (hat : Lexer.At source entry)
      (hopens : style.Opens delimiter)
      (hspells : Utf8.Spells source.contents start entry.index delimiter)
      (hscan : quotedBody style start entry = .ok (body, text?) c')
      (hquoted : kind.isQuoted = true) (hcharacter : kind = .charLiteral ↔ style = .character)
      (newline : Bool) :
      ScannedAs source style ⟨entry.index, body.stop⟩
        (Lexer.tokenOf (quotedLexeme kind style.flags text?) start newline c')

namespace QuoteStyle

variable {style : QuoteStyle} {body : List Char} {text : String}

theorem decodeBody_of_value? (h : style.value? body = some text) (offset : Nat) :
    style.decodeBody offset body = .ok body ∧ text = String.ofList body := by
  unfold value? at h
  split at h
  · cases h
  · rename_i hdefers
    refine ⟨?_, (Option.some.inj h).symm⟩
    unfold decodeBody
    split
    · rename_i hescapes
      apply unescape_of_not_mem
      intro hmem
      simp [defers, hescapes, hmem] at hdefers
    · rfl

end QuoteStyle

theorem Scanner.text?_of_value? {kind : TokenKind} {flags : TokenFlags} {text? : Option String}
    {text : String} (h : (quotedLexeme kind flags text?).value? = some (.text text)) :
    text? = some text ∧ (kind = .charLiteral → text.utf8ByteSize = 1) := by
  unfold quotedLexeme at h
  split at h
  · rename_i found hfound
    obtain ⟨rfl, hfits⟩ := Option.filter_eq_some_iff.1 hfound
    cases h
    refine ⟨rfl, ?_⟩
    rintro rfl
    simpa using hfits
  · cases h

theorem Utf8.length_eq_one {text : List Char} (h : (String.ofList text).utf8ByteSize = 1) :
    text.length = 1 := by
  have hsize : size text = 1 := (size_utf8Encode text).symm.trans h
  have hle := length_le_size text
  cases text with
  | nil => cases hsize
  | cons ch text =>
    rw [List.length_cons] at hle ⊢
    omega

/-- The token was made of a literal of the style that begins with the delimiter. -/
inductive Token.MadeOf (source : Source) (style : QuoteStyle) (delimiter : List Char) :
    Token → Prop
  | mk {start : Nat} {entry c' : Cursor} {body : QuotedBody} {text? : Option String}
      {kind : TokenKind} (hat : Lexer.At source entry) (hheads : style.Heads delimiter kind)
      (hspells : Utf8.Spells source.contents start entry.index delimiter)
      (hscan : quotedBody style start entry = .ok (body, text?) c') (newline : Bool) :
      MadeOf source style delimiter
        (Lexer.tokenOf (quotedLexeme kind style.flags text?) start newline c')

theorem Token.MadeOf.scannedAs {source : Source} {style : QuoteStyle} {delimiter : List Char}
    {t : Token} (h : t.MadeOf source style delimiter) :
    ∃ content, t.ScannedAs source style content := by
  obtain ⟨hat, hheads, hspells, hscan, newline⟩ := h
  exact ⟨_, .mk hat hheads.opens hspells hscan hheads.isQuoted hheads.eq_charLiteral_iff newline⟩

namespace Token.ScannedAs

variable {source : Source} {style : QuoteStyle} {content : Span} {t : Token}

/-- The token is a body between delimiters that the scan crossed up to the closer. -/
theorem exists_crosses (h : t.ScannedAs source style content) :
    ∃ delimiter body closer rest ending, t.Quotes source.contents style delimiter body closer ∧
      content = ⟨t.offset + Utf8.size delimiter, t.offset + Utf8.size delimiter + Utf8.size body⟩ ∧
      style.Crosses body (closer ++ rest) ∧
      style.closing? (closer ++ rest) = some (closer, ending) ∧
      ∀ text, t.value? = some (.text text) → style.value? body = some text ∧
        (style = .character → text.utf8ByteSize = 1) := by
  obtain ⟨hat, hopens, hspells, hscan, hquoted, hcharacter, newline⟩ := h
  obtain ⟨passed, closer, hpass, hcrosses, hcloser, hstop, htext⟩ :=
    (Scanner.ends_quotedBody style _ hat.started).of_ok hscan
  have hall := hspells.append (hat.spells hpass)
  rw [← List.append_assoc] at hall
  have hmem := (QuoteStyle.prefix_of_closing? hcloser).1
  refine ⟨_, passed, closer, _, _,
    Lexer.quotes_tokenOf hall hopens hmem hquoted hcharacter _ newline, ?_, hcrosses, hcloser, ?_⟩
  · rw [Span.mk.injEq, hstop, hspells.stop_eq]
    exact ⟨rfl, rfl⟩
  · intro text hvalue
    obtain ⟨hfound, hsize⟩ := Scanner.text?_of_value? hvalue
    exact ⟨htext.symm.trans hfound, fun hstyle => hsize (hcharacter.2 hstyle)⟩

theorem quotes (h : t.ScannedAs source style content) :
    ∃ delimiter body closer, t.Quotes source.contents style delimiter body closer ∧
      content = ⟨t.offset + Utf8.size delimiter, t.offset + Utf8.size delimiter + Utf8.size body⟩ ∧
      ∀ text, t.value? = some (.text text) → style.value? body = some text ∧
        (style = .character → text.utf8ByteSize = 1) := by
  obtain ⟨delimiter, body, closer, rest, ending, hquotes, hcontent, -, -, hknown⟩ :=
    h.exists_crosses
  exact ⟨delimiter, body, closer, hquotes, hcontent, hknown⟩

theorem bodySpan_eq (h : t.ScannedAs source style content) :
    t.bodySpan source.contents = content := by
  obtain ⟨delimiter, body, closer, hquotes, hcontent, -⟩ := h.quotes
  rw [hcontent]
  exact hquotes.bodySpan_eq

theorem decode_eq_of_value? (h : t.ScannedAs source style content) {text : String}
    (hvalue : t.value? = some (.text text)) : t.decode source.contents = .ok text := by
  obtain ⟨delimiter, body, closer, hquotes, -, hknown⟩ := h.quotes
  obtain ⟨hbody, hsize⟩ := hknown text hvalue
  obtain ⟨hdecode, rfl⟩ := QuoteStyle.decodeBody_of_value? hbody (t.offset + Utf8.size delimiter)
  exact hquotes.decode_eq hdecode fun hstyle => Utf8.length_eq_one (hsize hstyle)

end Token.ScannedAs

namespace Lexer

variable {source : Source} {c c' : Cursor} {ch : Char} {lexeme : Lexeme}

/-- The scan of a quoted token passes the opening delimiter of a style and goes on with the body. -/
theorem exists_quotedBody_of_scanAt (hcur : c.current = .scalar ch)
    (hscan : scanAt c ch = .ok lexeme c') (hquoted : lexeme.kind.isQuoted = true) :
    ∃ style entry body text?, c.Passes style.opening entry ∧
      quotedBody style c.index entry = .ok (body, text?) c' ∧
      quotedLexeme (style.kind body.ending) style.flags text? = lexeme := by
  have hahead := Cursor.passes_lookahead (.of_scalar hcur) 3
  have hbegins := begins_text hcur
  have hmakes := makes_of_scanAt hscan
  rw [← hahead.text_eq_of_nil] at hbegins
  rw [← hahead.index_eq_of_nil]
  unfold scanAt at hscan
  cases hstyle : (Opening.of ch (c.lookahead 3).1).style? with
  | some style =>
    rw [Opening.scanner_of_style? hstyle] at hscan
    obtain ⟨body, text?, hbody, rfl⟩ := Scanner.quoted_eq_ok_iff.1 hscan
    have hpass := Cursor.passes_advanceBy_length hahead.started (hbegins.of_style? hstyle)
    exact ⟨style, _, body, text?, hahead.trans hpass, hbody, rfl⟩
  | none =>
    rw [hmakes.eq_rawString hquoted hstyle] at hscan hbegins
    obtain ⟨hquote, body, text?, hbody, rfl⟩ := (Scanner.rawString_eq_ok_iff rfl).1 hscan
    have hpass := Scanner.passes_rawOpening hahead.started hbegins hquote
    let style := QuoteStyle.raw (Scanner.countHashes ((c.lookahead 3).2.advanceBy 1)).1
    exact ⟨style, _, body, text?, hahead.trans hpass, hbody, rfl⟩

theorem Origin.madeOf {t : Token} (h : Origin source t) (hquoted : t.kind.isQuoted = true) :
    ∃ style delimiter, t.MadeOf source style delimiter := by
  cases h with
  | finish hkind => rw [hkind] at hquoted; cases hquoted
  | script hkind => rw [hkind] at hquoted; cases hquoted
  | scan hat hcur hscan newline =>
    obtain ⟨style, entry, body, text?, hpass, hbody, rfl⟩ :=
      exists_quotedBody_of_scanAt hcur hscan hquoted
    exact ⟨style, _, .mk (hat.of_passes hpass) (.opening style body.ending) (hat.spells hpass)
      hbody newline⟩
  | rescan hat hbrace hscan newline =>
    obtain ⟨body, text?, hbody, rfl⟩ := Scanner.templateContinuation_eq_ok_iff.1 hscan
    exact ⟨.template, _, .mk hat (.continuation body.ending) hbrace hbody newline⟩

theorem Origin.scannedAs {t : Token} (h : Origin source t) (hquoted : t.kind.isQuoted = true) :
    ∃ style content, t.ScannedAs source style content := by
  obtain ⟨style, delimiter, hmade⟩ := h.madeOf hquoted
  exact ⟨style, hmade.scannedAs⟩

end Lexer

/-- Every quoted token of a run has been scanned as a literal, and wherever such a scan found the
body, decoding finds it there again. If the token has a text for its value, that is what it
denotes. -/
theorem driven_decode (source : Source) (config : LexerConfig) (choices : List Bool) (t : Token)
    (ht : .ok t ∈ ((Lexer.ofSource source config).driven choices).1)
    (hquoted : t.kind.isQuoted = true) :
    (∃ style, t.ScannedAs source style (t.bodySpan source.contents)) ∧
      (∀ style content, t.ScannedAs source style content → t.bodySpan source.contents = content) ∧
      ∀ text, t.value? = some (.text text) → t.decode source.contents = .ok text := by
  have horigin : Lexer.Origin source t :=
    Lexer.origin_of_mem_driven (Lexer.ready_ofSource source config) nofun choices ht
  obtain ⟨style, content, hscanned⟩ := horigin.scannedAs hquoted
  refine ⟨⟨style, ?_⟩, fun style content => Token.ScannedAs.bodySpan_eq, fun text =>
    hscanned.decode_eq_of_value?⟩
  rw [hscanned.bodySpan_eq]
  exact hscanned

/-- A string of two lines, between three quotes. -/
def twoLines : Source := ⟨"lines", "\"\"\"a\nb\"\"\"".toUTF8, 0, by decide⟩

theorem driven_decode_twoLines :
    ∃ choices t, .ok t ∈ ((Lexer.ofSource twoLines {}).driven choices).1 ∧
      t.kind.isQuoted = true ∧ t.bodySpan twoLines.contents = ⟨3, 6⟩ ∧
      t.value? = some (.text "a\nb") ∧ t.decode twoLines.contents = .ok "a\nb" := by
  let style := QuoteStyle.tripleString
  let body := ['a', '\n', 'b']
  have hsource : twoLines.contents = (style.enclose body).utf8Encode := rfl
  have hplain : ∀ ch ∈ body, style.Plain ch := by
    rw [List.forall_mem_cons, List.forall_mem_cons, List.forall_mem_singleton]
    decide
  have hcrosses : style.Crosses body style.closing := QuoteStyle.crosses_of_plain hplain _
  obtain ⟨hsingle, hquotes⟩ := QuoteStyle.isSingle_token {} hsource hcrosses
  obtain ⟨n, hresults, -⟩ := LexedFile.exists_driven_eq twoLines {}
  have hmem : .ok (style.token body) ∈
      ((Lexer.ofSource twoLines {}).driven (List.replicate n false)).1 := by
    rw [hresults, LexedFile.results, hsingle.tokens_eq]
    exact List.mem_append_left _ List.mem_cons_self
  have hvalue : (style.token body).value? = some (.text "a\nb") := rfl
  have hdecode := (driven_decode twoLines {} _ _ hmem rfl).2.2 _ hvalue
  exact ⟨_, _, hmem, rfl, hquotes.bodySpan_eq, hvalue, hdecode⟩

end Lexis
