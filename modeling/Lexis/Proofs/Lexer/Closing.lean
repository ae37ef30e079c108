import Lexis.Proofs.Lexer.Outcomes
import Lexis.Proofs.Literal.Enclosed
import Lexis.Proofs.Scanner.Closers

/-!
# Quoted literals of a run

Wherever a run enters a quoted body, by the opening of a style or by a brace at which a template
goes on, the literal ends behind the first closer, or it is unterminated since there is none
(`driven_closes`).
-/

namespace Lexis

open CharClass

open Scanner (quotedBody quotedLexeme)

/-! ## Literals -/

/-- What comes of a literal that begins at `start` with a delimiter in front of a body: a token that
ends behind the first closer, and if there is no closer, an error from the start of the literal to
where it is broken off. -/
structure QuoteStyle.Concludes (style : QuoteStyle) (kinds : Ending → TokenKind) (start : Nat)
    (delimiter body : List Char) (result : Except Stop Token) : Prop where
  ok_iff : (∃ t, result = .ok t) ↔ ∃ us closer ending, style.Closes body us closer ending
  closed : ∀ us closer ending, style.ClosesFirst body us closer ending →
    ∃ t, result = .ok t ∧ t.offset = start ∧
      t.stop = start + Utf8.size (delimiter ++ us.flatten ++ closer) ∧ t.kind = kinds ending
  broken : (¬ ∃ us closer ending, style.Closes body us closer ending) →
    ∃ e, result = .error (.fatal e) ∧ e.kind = style.unterminated ∧
      e.span = ⟨start, start + Utf8.size (delimiter ++
        ((style.units body).takeWhile (!style.isBreak ·)).flatten)⟩

namespace Scanner

variable {c c' : Cursor}

/-- A literal from its body on. -/
def quotedFrom (style : QuoteStyle) (kinds : Ending → TokenKind) (flags : TokenFlags)
    (start : Nat) : Scanner Lexeme :=
  quotedBody style start >>= fun found =>
    pure (quotedLexeme (kinds found.1.ending) flags found.2)

theorem templateContinuation_eq (start : Nat) (flags : TokenFlags) :
    templateContinuation start flags = quotedFrom .template continuationKind flags start := rfl

theorem ends_quotedFrom (style : QuoteStyle) (kinds : Ending → TokenKind) (flags : TokenFlags)
    (start : Nat) (h : c.Started) :
    Ends (quotedFrom style kinds flags start) c
      (fun lexeme c' => ∃ passed closer ending, c.Passes (passed ++ closer) c' ∧
        style.Crosses passed (closer ++ c'.text) ∧
        style.closing? (closer ++ c'.text) = some (closer, ending) ∧ lexeme.kind = kinds ending)
      (fun e => ∃ passed c', c.Passes passed c' ∧ style.Crosses passed c'.text ∧
        style.breaksAt c'.text = true ∧ e = .between style.unterminated start c'.index) := by
  unfold quotedFrom
  rw [ends_bind]
  apply (ends_quotedBody style start h).mono ?_ fun _ he => he
  rintro found c' ⟨passed, closer, hpass, hcrosses, hcloser, -⟩
  exact ends_pure.2 ⟨passed, closer, _, hpass, hcrosses, hcloser, kind_quotedLexeme ..⟩

end Scanner

namespace Lexer

variable {source : Source} {style : QuoteStyle} {delimiter body : List Char} {start : Nat}
  {c entry : Cursor} {ch : Char}

/-- A scan from the body on concludes the literal. -/
theorem concludes_quotedFrom (hat : At source entry)
    (hdelimiter : Utf8.Spells source.contents start entry.index delimiter)
    (hbody : entry.text = body) (kinds : Ending → TokenKind) (flags : TokenFlags)
    (newline : Bool) :
    style.Concludes kinds start delimiter body
      (resultOf start newline (Scanner.quotedFrom style kinds flags start entry)) := by
  have hends := Scanner.ends_quotedFrom style kinds flags start hat.started
  unfold Scanner.Ends at hends
  cases hscan : Scanner.quotedFrom style kinds flags start entry with
  | ok lexeme c' =>
    rw [hscan] at hends
    obtain ⟨passed, closer, ending, hpass, hcrosses, hcloser, hkind⟩ := hends
    have htext := hpass.text_eq
    rw [hbody, List.append_assoc] at htext
    obtain ⟨us, rfl, hfirst⟩ := hcrosses.closesFirst hcloser
    rw [← htext] at hfirst
    have hspells := hdelimiter.append (hat.spells hpass)
    rw [← List.append_assoc] at hspells
    refine ⟨⟨fun _ => ⟨us, closer, ending, hfirst.toCloses⟩, fun _ => ⟨_, rfl⟩⟩, ?_, ?_⟩
    · intro us' closer' ending' hfirst'
      obtain ⟨rfl, rfl, rfl⟩ := hfirst'.unique hfirst
      refine ⟨_, rfl, rfl, ?_, hkind⟩
      rw [stop_tokenOf hspells.start_le, hspells.stop_eq]
    · intro hnone
      exact absurd ⟨us, closer, ending, hfirst.toCloses⟩ hnone
  | error e c' =>
    rw [hscan] at hends
    obtain ⟨passed, c₁, hpass, hcrosses, hbreaks, he⟩ := hends
    have htext := hpass.text_eq
    rw [hbody] at htext
    have hnone : ¬ ∃ us closer ending, style.Closes body us closer ending := by
      rintro ⟨us, closer, ending, hcloses⟩
      exact hcrosses.not_closes hbreaks (htext ▸ hcloses)
    have hspells := hdelimiter.append (hat.spells hpass)
    refine ⟨⟨?_, fun h => absurd h hnone⟩, ?_, ?_⟩
    · rintro ⟨t, ht⟩
      cases ht
    · intro us closer ending hfirst
      exact absurd ⟨us, closer, ending, hfirst.toCloses⟩ hnone
    · intro _
      rw [htext, hcrosses.takeWhile_units hbreaks, ← hspells.stop_eq]
      refine ⟨e, rfl, ?_, ?_⟩
      · rw [he]
        rfl
      · rw [he]
        cases style <;> rfl

end Lexer

/-! ## Entries -/

/-- A text that begins with two quotes is no body of a string with one: there would be three. -/
def QuoteStyle.Admits (style : QuoteStyle) (body : List Char) : Prop :=
  style = .string → ¬ ['"', '"'] <+: body

namespace Lexer

variable {source : Source} {style : QuoteStyle} {delimiter body : List Char} {start : Nat}
  {c : Cursor} {ch : Char}

theorem opening_of_admits (h : ¬ ['"', '"'] <+: body) :
    Opening.of '"' (body.take 3) = .string := by
  match body with
  | [] => rfl
  | [first] =>
    unfold Opening.of
    split <;> simp_all
  | first :: second :: more =>
    simp only [List.take_succ_cons]
    unfold Opening.of
    split <;> simp_all

/-- The opening of a style is recognised, but for the number signs of a raw string. -/
theorem style?_of_admits {text : List Char} (hraw : ∀ hashes, style ≠ .raw hashes)
    (hadmits : style.Admits body) (htext : ch :: text = style.opening ++ body) :
    (Opening.of ch (text.take 3)).style? = some style := by
  cases style with
  | raw hashes => exact absurd rfl (hraw hashes)
  | string =>
    obtain ⟨rfl, rfl⟩ := List.cons.inj htext
    exact congrArg Opening.style? (opening_of_admits (hadmits rfl))
  | tripleString | character | template =>
    obtain ⟨rfl, rfl⟩ := List.cons.inj htext
    rfl

/-- Behind the opening of a raw string, the scan goes on with the body. -/
theorem rawString_eq_quotedFrom {hashes : Nat} (h : c.Started)
    (htext : c.text = (QuoteStyle.raw hashes).opening ++ body) :
    ∃ entry, c.Passes (QuoteStyle.raw hashes).opening entry ∧ Scanner.rawString c =
      Scanner.quotedFrom (.raw hashes) (QuoteStyle.raw hashes).kind { raw := true } c.index
        entry := by
  have hbehind : c.text = ['r'] ++ (List.replicate hashes '#' ++ '"' :: body) := by
    rw [htext, QuoteStyle.opening, List.append_assoc]
    rfl
  have hmark : ['r'] <+: c.text := ⟨_, hbehind.symm⟩
  have hfirst : c.Passes ['r'] (c.advanceBy 1) := Cursor.passes_advanceBy_length h hmark
  have hsigns := hfirst.text_eq_of_append hbehind
  have hcount : (Scanner.countHashes (c.advanceBy 1)).1 = hashes :=
    Scanner.countHashes_fst hfirst.started hsigns
  have hpass := Scanner.passes_countHashes hfirst.started
  rw [hcount] at hpass
  have hquote := hpass.started.current_of_text_cons (hpass.text_eq_of_append hsigns)
  have hopening := Scanner.passes_rawOpening h hmark hquote
  have his : (Scanner.countHashes (c.advanceBy 1)).2.current.is '"' = true := beq_iff_eq.2 hquote
  rw [hcount] at hopening
  refine ⟨_, hopening, ?_⟩
  rw [Scanner.rawString_eq, if_pos his, hcount]
  rfl

/-- Behind an opening, the scan goes on with the body. -/
theorem scanAt_eq_quotedFrom (h : c.Started) (hcur : c.current = .scalar ch)
    (hadmits : style.Admits body) (htext : c.text = style.opening ++ body) :
    ∃ entry, c.Passes style.opening entry ∧
      scanAt c ch = Scanner.quotedFrom style style.kind style.flags c.index entry := by
  have hahead := Cursor.passes_lookahead h 3
  have htext' := hahead.text_eq_of_nil.trans htext
  have hall := (Cursor.text_of_scalar hcur).symm.trans htext
  rw [scanAt, c.lookahead_fst, ← hahead.index_eq_of_nil]
  by_cases hraw : ∃ hashes, style = .raw hashes
  · obtain ⟨hashes, rfl⟩ := hraw
    obtain ⟨entry, hpass, hscan⟩ := rawString_eq_quotedFrom hahead.started htext'
    rw [QuoteStyle.opening, List.append_assoc, List.cons_append, List.cons.injEq] at hall
    obtain ⟨rfl, hupcoming⟩ := hall
    refine ⟨entry, hahead.trans hpass, ?_⟩
    rw [hupcoming, List.singleton_append, QuoteStyle.opening_raw]
    exact hscan
  · have hstyle := style?_of_admits (fun hashes heq => hraw ⟨hashes, heq⟩) hadmits hall
    have hopening := Cursor.passes_advanceBy_length hahead.started ⟨body, htext'.symm⟩
    refine ⟨_, hahead.trans hopening, ?_⟩
    rw [Opening.scanner_of_style? hstyle]
    rfl

end Lexer

/-- A quoted body is entered where the text begins with the delimiter: behind the opening of a style
or, if the caller chooses so, behind a brace at which a template goes on. -/
inductive Enters (again : Bool) : (style : QuoteStyle) → (kinds : Ending → TokenKind) →
    (delimiter body : List Char) → Prop
  | opening (style : QuoteStyle) (body : List Char) (hadmits : style.Admits body) :
      Enters again style style.kind style.opening body
  | brace (hagain : again = true) (body : List Char) :
      Enters again .template Scanner.continuationKind ['\x7d'] body

section Entries

variable {source : Source} {again : Bool} {start : Nat} {result : Except Stop Token}
  {style : QuoteStyle} {kinds : Ending → TokenKind} {delimiter body : List Char}

theorem QuoteStyle.exists_opening_eq (style : QuoteStyle) :
    ∃ mark more, style.opening = mark :: more ∧ mark ∈ ['"', '\'', '\x60', 'r'] := by
  cases style <;> exact ⟨_, _, rfl, by decide⟩

theorem Enters.exists_eq (h : Enters again style kinds delimiter body) :
    ∃ mark more, delimiter = mark :: more ∧ mark ∈ ['"', '\'', '\x60', 'r', '\x7d'] := by
  cases h with
  | brace => exact ⟨_, _, rfl, by decide⟩
  | opening =>
    obtain ⟨mark, more, hopening, hmark⟩ := style.exists_opening_eq
    exact ⟨mark, more, hopening, List.mem_append_left ['\x7d'] hmark⟩

/-- A gap ends where a body is entered. -/
theorem Enters.gapEnds {bytes : ByteArray} (h : Enters again style kinds delimiter body)
    (htext : Utf8.textFrom bytes start = delimiter ++ body) (keepComments : Bool) :
    GapEnds bytes keepComments start := by
  obtain ⟨mark, more, rfl, hmark⟩ := h.exists_eq
  have hplain : isWhitespace mark = false ∧ mark ≠ '/' := by
    simp only [List.mem_cons, List.not_mem_nil, or_false] at hmark
    obtain rfl | rfl | rfl | rfl | rfl := hmark <;> decide
  have hch : Utf8.charAt? bytes start = some mark := by
    rw [← Utf8.head?_textFrom, htext]
    rfl
  exact Lexer.gapEnds_of_charAt? hch hplain.1 hplain.2

theorem Lexer.Outcome.concludes (h : Lexer.Outcome source again start result)
    (henters : Enters again style kinds delimiter body)
    (htext : Utf8.textFrom source.contents start = delimiter ++ body) :
    style.Concludes kinds start delimiter body result := by
  cases h with
  | finish hend =>
    obtain ⟨mark, more, rfl, -⟩ := henters.exists_eq
    rw [hend] at htext
    cases htext
  | script hbegins =>
    obtain ⟨mark, more, rfl, hmark⟩ := henters.exists_eq
    rw [htext] at hbegins
    obtain rfl := (List.cons_prefix_cons.1 hbegins).1
    exact absurd hmark (by decide)
  | @scan c _ hat hindex hcur newline hsettled =>
    subst hindex
    rw [← hat.text_eq] at htext
    cases henters with
    | opening _ _ hadmits =>
      obtain ⟨entry, hpass, hscan⟩ := scanAt_eq_quotedFrom hat.started hcur hadmits htext
      rw [hscan]
      exact concludes_quotedFrom (hat.of_passes hpass) (hat.spells hpass)
        (hpass.text_eq_of_append htext) _ _ newline
    | brace hagain =>
      rw [Cursor.text_of_scalar hcur] at htext
      obtain ⟨rfl, -⟩ := List.cons.inj htext
      obtain ⟨c', hscan, -⟩ := scanAt_closeBrace hat.started (Cursor.text_of_scalar hcur)
      exact absurd rfl (hsettled _ c' hscan hagain)
  | rescan hagain hat hbrace newline =>
    rw [hbrace.textFrom_eq, ← hat.text_eq] at htext
    cases henters with
    | opening =>
      obtain ⟨mark, more, hopening, hmark⟩ := style.exists_opening_eq
      rw [hopening] at htext
      obtain rfl := (List.cons.inj htext).1
      exact absurd hmark (by decide)
    | brace =>
      rw [Scanner.templateContinuation_eq]
      exact concludes_quotedFrom hat hbrace (List.append_cancel_left htext) _ _ newline

end Entries

/-- Wherever a run enters a quoted body, the literal ends behind the first closer of its style, or
it is unterminated. -/
theorem driven_closes (source : Source) (config : LexerConfig) (choices : List Bool) :
    Stepwise (fun again offset result =>
        ∀ start style kinds delimiter body,
          Gap source.contents config.keepComments offset start →
          Enters again style kinds delimiter body →
          Utf8.textFrom source.contents start = delimiter ++ body →
          style.Concludes kinds start delimiter body result)
      0 choices ((Lexer.ofSource source config).driven choices).1 := by
  apply Lexer.stepwise_ofSource
  intro again offset start result hgap hends houtcome start' style kinds delimiter body hgap'
    henters htext
  obtain rfl := hgap.unique hgap' hends (henters.gapEnds htext config.keepComments)
  exact houtcome.concludes henters htext

example :
    ((Lexer.ofSource ⟨"raw", "r#\"a\"b\"##".toUTF8, 0, by decide⟩ {}).driven [false]).1.map
      (·.toOption.map Token.stop) = [some 8] := by
  decide +kernel

end Lexis
