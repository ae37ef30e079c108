import Lexis.Proofs.Beside.Interpolations
import Lexis.Proofs.Literal.Enclosed
import Lexis.Proofs.Literal.Writing
import Lexis.Proofs.Utf8.Parts

/-!
# Interpolated templates

A template with interpolations is read as it has been written: its parts denote the texts between
the interpolations, and the code of each interpolation has the tokens that it has alone
(`replies_interpolate`). The code may hold templates itself.
-/

namespace Lexis

open CharClass

open Scanner (quotedLexeme continuationKind)

/-! ## Texts in templates -/

/-- A text as it is written in a template, with a backslash before what has a meaning there. -/
def escapeTemplate (text : List Char) : List Char :=
  text.flatMap fun ch =>
    if ch = '\\' ∨ ch = '\x60' ∨ ch = '\x7b' then ['\\', ch] else [ch]

theorem exists_pieces_escapeTemplate (text : List Char) : ∃ pieces : List Piece,
    Piece.spell pieces = escapeTemplate text ∧ pieces.map Piece.ch = text ∧
      (∀ piece ∈ pieces, piece.Fits .template) ∧ ∀ piece ∈ pieces, piece.isNumber = false := by
  induction text with
  | nil => exact ⟨[], rfl, rfl, List.forall_mem_nil _, List.forall_mem_nil _⟩
  | cons ch text ih =>
    obtain ⟨pieces, hspell, hch, hfits, hnumber⟩ := ih
    have hpiece : ∃ piece : Piece, piece.ch = ch ∧ piece.Fits .template ∧ piece.isNumber = false ∧
        piece.spelling =
          if ch = '\\' ∨ ch = '\x60' ∨ ch = '\x7b' then ['\\', ch] else [ch] := by
      split
      · rename_i hspecial
        have hsimple : (ch, ch) ∈ simpleEscapes := by
          obtain rfl | rfl | rfl := hspecial <;> decide
        exact ⟨⟨ch, .simple ch⟩, rfl, hsimple, rfl, rfl⟩
      · rename_i hplain
        rw [not_or, not_or] at hplain
        have hmark : ch ∉ QuoteStyle.template.marks := by
          simp [QuoteStyle.marks, hplain]
        have hfits : QuoteStyle.template.Plain ch :=
          ⟨hplain.1, hmark, fun hsingle => Bool.noConfusion hsingle⟩
        exact ⟨⟨ch, .verbatim⟩, rfl, hfits, rfl, rfl⟩
    obtain ⟨piece, rfl, hfit, hdigit, hspelling⟩ := hpiece
    refine ⟨piece :: pieces, ?_, ?_, ?_, ?_⟩
    · rw [escapeTemplate, List.flatMap_cons, ← hspelling]
      exact congrArg (piece.spelling ++ ·) hspell
    · rw [List.map_cons, hch]
    · exact List.forall_mem_cons.2 ⟨hfit, hfits⟩
    · exact List.forall_mem_cons.2 ⟨hdigit, hnumber⟩

theorem crosses_escapeTemplate (text rest : List Char) :
    QuoteStyle.template.Crosses (escapeTemplate text) rest := by
  obtain ⟨pieces, hspell, -, hfits, hnumber⟩ := exists_pieces_escapeTemplate text
  rw [← hspell]
  exact Piece.crosses_spell rfl hfits (fun _ => hnumber) rest

theorem unescape_escapeTemplate (offset : Nat) (text : List Char) :
    unescape offset (escapeTemplate text) = .ok text := by
  obtain ⟨pieces, hspell, hch, hfits, -⟩ := exists_pieces_escapeTemplate text
  rw [← hspell, Piece.unescape_spell hfits, hch]

/-! ## Parts of templates -/

/-- The token stands at the offset and has a delimiter of one byte on each side of the escaped
text, which it denotes. -/
structure Token.Segment (t : Token) (bytes : ByteArray) (kind : TokenKind) (offset : Nat)
    (text : String) : Prop where
  kind_eq : t.kind = kind
  offset_eq : t.offset = offset
  len_eq : t.len = Utf8.size (escapeTemplate text.toList) + 2
  decode_eq : t.decode bytes = .ok text

theorem Token.Quotes.segment {t : Token} {bytes : ByteArray} {delimiter closer : List Char}
    {text : String}
    (h : t.Quotes bytes .template delimiter (escapeTemplate text.toList) closer) :
    t.Segment bytes t.kind t.offset text where
  kind_eq := rfl
  offset_eq := rfl
  len_eq := by
    obtain ⟨ending, hcloses⟩ := h.closes
    have hstop := h.spells.stop_eq
    have hopening : Utf8.size delimiter = 1 := QuoteStyle.size_of_opens h.opens
    have hcloser : Utf8.size closer = 1 := QuoteStyle.size_of_mem_closers hcloses
    rw [Utf8.size_append, Utf8.size_append, hopening, hcloser, Token.stop] at hstop
    omega
  decode_eq := by
    have hother : QuoteStyle.template ≠ .character := nofun
    have hdecode := h.decode_eq (unescape_escapeTemplate _ _) fun hstyle => absurd hstyle hother
    rwa [String.ofList_toList] at hdecode

namespace Lexer

variable {source : Source} {config : LexerConfig} {l m : Lexer} {lexeme : Lexeme} {ch : Char}
  {gap text passed body closer rest : List Char} {ending : Ending}

/-- Behind whitespace a token is found that is known by its text. -/
theorem exists_scan_eq (h : l.Ready) (hphase : l.phase = .scanning)
    (htext : l.cursor.text = gap ++ ch :: (passed ++ rest))
    (hgap : ∀ c ∈ gap, isWhitespace c = true) (hblank : isWhitespace ch = false)
    (hscan : ∀ c : Cursor, c.Started → c.text = ch :: (passed ++ rest) →
      ∃ c', scanAt c ch = .ok lexeme c' ∧ c.Passes (ch :: passed) c')
    (hcomment : lexeme.kind.isComment = false) :
    ∃ newline l' t, l.scan = (.ok t, l') ∧
      t = tokenOf lexeme (l.cursor.index + Utf8.size gap) newline l'.cursor ∧
      l'.Running l.source l.config t ∧ l'.cursor.text = rest ∧
      Utf8.Spells l.source.contents t.offset l'.cursor.index (ch :: passed) := by
  obtain ⟨hpass, -⟩ := skipWhitespace_eq l.newlineBefore h.cursor.started
  have hrun : l.cursor.text.takeWhile isWhitespace = gap := by
    have hfirst : ¬ isWhitespace ch = true := ne_true_of_eq_false hblank
    rw [htext, List.takeWhile_append_of_pos hgap, List.takeWhile_cons_of_neg hfirst,
      List.append_nil]
  rw [hrun] at hpass
  have hbehind := hpass.text_eq_of_append htext
  have hcur := hpass.started.current_of_text_cons hbehind
  obtain ⟨c', hfound, hpassed⟩ := hscan _ hpass.started hbehind
  have hspells := (h.cursor.of_passes hpass).spells hpassed
  have hcursor := l.cursor_accept lexeme c'
  refine ⟨(skipWhitespace l.newlineBefore l.cursor).1,
    { l.accept lexeme c' with newlineBefore := false }, _,
    scan_of_token rfl hcur hfound (by rw [hcomment, Bool.false_and]), ?_, ?_, ?_, ?_⟩
  · rw [hcursor, hpass.index_eq]
  · exact {
      ready := ready_accept h hphase hpass hcur hfound false
      phase := (phase_accept ..).trans hphase
      source_eq := source_accept ..
      config_eq := config_accept ..
      newlineBefore := rfl
      stop_eq := by
        rw [hcursor]
        exact stop_tokenOf hspells.start_le _ }
  · rw [hcursor]
    exact hpassed.text_eq_of_append hbehind
  · rw [hcursor]
    exact hspells

/-- The lexeme of a part of a template. -/
def templateLexeme (kind : TokenKind) (text : String) : Lexeme :=
  quotedLexeme kind QuoteStyle.template.flags
    (QuoteStyle.template.value? (escapeTemplate text.toList))

theorem kind_templateLexeme (kind : TokenKind) (text : String) :
    (templateLexeme kind text).kind = kind := Scanner.kind_quotedLexeme ..

/-- A part of a template that is spelled as it should be. -/
theorem segment_tokenOf {bytes : ByteArray} {start : Nat} {c : Cursor} {delimiter : List Char}
    {text : String} (kind : TokenKind)
    (hspells : Utf8.Spells bytes start c.index
      (delimiter ++ (escapeTemplate text.toList ++ closer)))
    (hopens : QuoteStyle.template.Opens delimiter)
    (hcloses : (closer, ending) ∈ QuoteStyle.template.closers) (hquoted : kind.isQuoted = true)
    (hcharacter : kind ≠ .charLiteral) (newline : Bool) :
    (tokenOf (templateLexeme kind text) start newline c).Segment bytes kind start text := by
  have hstyle : QuoteStyle.template ≠ .character := nofun
  have hquotes : (tokenOf (templateLexeme kind text) start newline c).Quotes bytes .template
      delimiter (escapeTemplate text.toList) closer :=
    quotes_tokenOf (by rwa [List.append_assoc]) hopens hcloses hquoted
      (iff_of_false hcharacter hstyle) _ newline
  have hsegment := hquotes.segment
  exact ⟨kind_templateLexeme .., rfl, hsegment.len_eq, hsegment.decode_eq⟩

/-- A template that has interpolations begins with a head. -/
theorem exists_finds_head {text : String} (config : LexerConfig)
    (hsource : source.contents =
      ('\x60' :: (escapeTemplate text.toList ++ '\x7b' :: rest)).utf8Encode) :
    ∃ head m, (Lexer.ofSource source config).Finds {} head m ∧
      head.Segment source.contents .templateHead 0 text ∧ m.Running source config head ∧
      m.cursor.text = rest := by
  have hready := ready_begun (ready_ofSource source config)
  have htext : (Lexer.ofSource source config).begun.cursor.text =
      [] ++ '\x60' :: ((escapeTemplate text.toList ++ ['\x7b']) ++ rest) := by
    rw [text_begun, hsource, Utf8.textFrom_utf8Encode, List.append_assoc]
    rfl
  have hplain : ¬ ['#', '!'] <+: Utf8.textFrom source.contents 0 := by
    rw [hsource, Utf8.textFrom_utf8Encode, List.cons_prefix_cons]
    exact fun hscript => absurd hscript.1 (by decide)
  have hscan : ∀ c : Cursor, c.Started →
      c.text = '\x60' :: ((escapeTemplate text.toList ++ ['\x7b']) ++ rest) →
      ∃ c', scanAt c '\x60' = .ok (templateLexeme .templateHead text) c' ∧
        c.Passes ('\x60' :: (escapeTemplate text.toList ++ ['\x7b'])) c' := by
    intro c h hc
    rw [List.append_assoc] at hc
    exact scanAt_of_style? h hc rfl hc (crosses_escapeTemplate _ _) rfl
  obtain ⟨newline, m, head, hfound, hhead, hrunning, hbehind, hspells⟩ :=
    exists_scan_eq hready rfl htext (List.forall_mem_nil _) (by decide) hscan
      (by rw [kind_templateLexeme]; rfl)
  rw [index_begun, Utf8.size_nil, Nat.add_zero] at hhead
  refine ⟨head, m, .next ?_ ?_, ?_, hrunning, hbehind⟩
  · rw [next_ofSource config hplain, next_of_scanning rfl]
    exact hfound
  · rw [Bool.eq_false_iff, ne_eq, Interpolations.endsAt_iff]
    exact fun hends => nomatch hends.2
  · rw [hhead] at hspells ⊢
    exact segment_tokenOf .templateHead hspells (.inl rfl)
      (List.mem_cons_of_mem _ List.mem_cons_self) rfl nofun newline

/-- Behind the code comes the brace that ends its interpolation, and there the template goes on. -/
theorem exists_finds_continuation {text : String} (h : m.Ready) (hphase : m.phase = .scanning)
    (hready : l.Ready) (hphase' : l.phase = .scanning) (hnext : m.next = l.scan)
    (htext : l.cursor.text = gap ++ '\x7d' :: (escapeTemplate text.toList ++ (closer ++ rest)))
    (hgap : ∀ ch ∈ gap, isWhitespace ch = true)
    (hcloser : QuoteStyle.template.closing? (closer ++ rest) = some (closer, ending)) :
    ∃ t m', m.Finds ⟨[0]⟩ t m' ∧
      t.Segment l.source.contents (continuationKind ending) (l.cursor.index + Utf8.size gap)
        text ∧
      m'.Running l.source l.config t ∧ m'.cursor.text = rest := by
  have hafter : l.cursor.text =
      gap ++ '\x7d' :: ([] ++ (escapeTemplate text.toList ++ (closer ++ rest))) := htext
  obtain ⟨newline, m₁, brace, hfound, hbrace, hrunning, hbehind, hspells⟩ :=
    exists_scan_eq hready hphase' hafter hgap (by decide)
      (fun c h hc => scanAt_closeBrace h hc) rfl
  have hoffset : brace.offset = l.cursor.index + Utf8.size gap := congrArg Token.offset hbrace
  have hkind : brace.kind = .operator .closeBrace := congrArg Token.kind hbrace
  have hends : (⟨[0]⟩ : Interpolations).endsAt brace = true :=
    Interpolations.endsAt_iff.2 ⟨hkind, rfl⟩
  obtain ⟨-, -, hrescans⟩ :=
    behindBrace_of_next h (phase_ne_finished hphase) (hnext.trans hfound) hkind
  obtain ⟨found, c, hbody, hpass, hending⟩ := Scanner.quotedBody_of_crosses brace.offset
    hrunning.ready.cursor.started hbehind (crosses_escapeTemplate text.toList _) hcloser
  have hscan : Scanner.templateContinuation brace.offset { multiLine := true } m₁.cursor =
      .ok (templateLexeme (continuationKind ending) text) c :=
    Scanner.templateContinuation_eq_ok_iff.2 ⟨found, _, hbody, by rw [hending]; rfl⟩
  have hrescan : m₁.rescan brace = (.ok (tokenOf (templateLexeme (continuationKind ending) text)
      brace.offset brace.flags.newlineBefore c), { m₁ with cursor := c }) := by
    rw [rescan_of_brace hrunning.phase hrescans.kind_eq hrescans.stop_eq, hscan]
  have hcall := hrescans.call hrunning.ready hrunning.phase
  rw [hrescan] at hcall
  have hall := hspells.append (hrunning.source_eq ▸ hrunning.ready.cursor.spells hpass)
  rw [← hoffset]
  refine ⟨_, _, .rescan (hnext.trans hfound) hends hrescan, ?_, ?_, ?_⟩
  · refine segment_tokenOf _ hall (.inr ⟨rfl, rfl⟩) (QuoteStyle.prefix_of_closing? hcloser).1
      ?_ ?_ _
    · cases ending <;> rfl
    · cases ending <;> nofun
  · exact { hrunning with
      ready := (hcall.ready hrunning.phase).1
      stop_eq := stop_tokenOf hall.start_le _ }
  · refine hpass.text_eq_of_append (hbehind.trans ?_)
    rw [List.append_assoc]

end Lexer

/-! ## Interpolations -/

/-- The code of an interpolation with its tokens, and the text behind it. -/
structure Interpolation where
  code : Source
  tokens : List Token
  text : String

namespace Interpolation

/-- Read alone, the code has the tokens and then comes to its end, and it leaves nothing open. -/
structure IsComplete (p : Interpolation) (config : LexerConfig) : Prop where
  isValidUTF8 : p.code.contents.IsValidUTF8
  replies_eq : ∃ last : Token, last.kind = .endOfInput ∧
    ((Session.ofSource p.code config).pullAll .following).map Prod.fst =
      (p.tokens ++ [last]).map Reply.token
  openBraces_eq : ((Session.ofSource p.code config).pullAll .following).getLast?.map
    (·.2.interpolations.openBraces) = some []
  balanced : Balanced p.tokens
  not_script : ¬ ['#', '!'] <+: Utf8.textFrom p.code.contents 0
  not_endsInComment : ¬ Lexer.EndsInComment p.code.contents p.tokens

/-- The code and the text behind it, as they are written from the brace before the code on. -/
def spelling (p : Interpolation) : List Char :=
  '\x7b' :: (Utf8.textFrom p.code.contents 0 ++ '\x7d' :: escapeTemplate p.text.toList)

/-- The interpolations with the texts behind them, up to the end of the template. -/
def spell (parts : List Interpolation) : List Char := parts.flatMap spelling ++ ['\x60']

theorem spell_cons (p : Interpolation) (parts : List Interpolation) :
    spell (p :: parts) = '\x7b' :: (Utf8.textFrom p.code.contents 0 ++
      '\x7d' :: (escapeTemplate p.text.toList ++ spell parts)) := by
  simp only [spell, List.flatMap_cons, spelling, List.cons_append, List.append_assoc]

/-- The tokens of the code at the place where it stands in a template. -/
def tokensAt (p : Interpolation) (offset : Nat) : List Token := p.tokens.map (·.shift offset)

end Interpolation

/-- A template that begins with a text. -/
def interpolate (first : String) (parts : List Interpolation) : List Char :=
  '\x60' :: (escapeTemplate first.toList ++ Interpolation.spell parts)

/-- From the offset on, the tokens are those of the interpolations and the parts of the template
behind them, the last of which is the end of the template. -/
inductive Interpolates (bytes : ByteArray) : Nat → List Interpolation → List Token → Prop
  | last {offset : Nat} {p : Interpolation} {tail : Token}
      (htail : tail.Segment bytes .templateTail (offset + p.code.size) p.text) :
      Interpolates bytes offset [p] (p.tokensAt offset ++ [tail])
  | more {offset : Nat} {p : Interpolation} {parts : List Interpolation} {middle : Token}
      {tokens : List Token}
      (hmiddle : middle.Segment bytes .templateMiddle (offset + p.code.size) p.text)
      (hrest : Interpolates bytes middle.stop parts tokens) :
      Interpolates bytes offset (p :: parts) (p.tokensAt offset ++ middle :: tokens)

namespace Lexer

variable {source : Source} {config : LexerConfig} {l m : Lexer} {p : Interpolation}
  {closer rest : List Char} {ending : Ending}

/-- The code of an interpolation is read as it is alone, and then the template goes on. -/
theorem Running.exists_follows {t : Token} (closer rest : List Char)
    (h : m.Running source config t) (hp : p.IsComplete config)
    (htext : m.cursor.text = Utf8.textFrom p.code.contents 0 ++
      '\x7d' :: (escapeTemplate p.text.toList ++ (closer ++ rest)))
    (hcloser : QuoteStyle.template.closing? (closer ++ rest) = some (closer, ending)) :
    ∃ t' m', Follows m ⟨[0]⟩ (p.tokensAt t.stop ++ [t']) m' ((⟨[0]⟩ : Interpolations).after t') ∧
      t'.Segment source.contents (continuationKind ending) (t.stop + p.code.size) p.text ∧
      m'.Running source config t' ∧ m'.cursor.text = rest := by
  obtain ⟨last, hlast, hreplies⟩ := hp.replies_eq
  obtain ⟨l₀, opened, l₂, hfollows, hfinds, hopened⟩ :=
    Session.follows_of_replies hreplies hp.openBraces_eq
  have hnext := next_ofSource config hp.not_script
  obtain ⟨l₁, hfollows, hfinds⟩ := hfollows.congr hfinds hnext
  have hbeside := h.beside (.closeBrace _) htext
  have hcloses : ∀ offset ∈ (Lexer.ofSource p.code config).begun.cursor.index ::
      p.tokens.map Token.stop, Closes ('\x7d' :: (escapeTemplate p.text.toList ++ (closer ++ rest)))
        p.code.contents offset := by
    intro offset hoffset
    rw [List.mem_cons, index_begun, List.mem_map] at hoffset
    exact .inr fun start hgap hline => hp.not_endsInComment ⟨offset, start, hoffset, hgap, hline⟩
  obtain ⟨m₁, n₁, gap₁, u₁, hfollows', hcount, hbeside₁, hprogress, hclosed⟩ :=
    hfollows.inside hbeside (n := 0) hp.balanced hcloses
  obtain ⟨l₃, m₃, gap, hbeside₃, hprogress₃, hscan⟩ :=
    hbeside₁.exists_of_end hclosed hfinds hlast
  have hprogress := hprogress.trans hprogress₃
  -- Nothing is left open, so that the brace behind the code ends its interpolation.
  have hsame : opened.after last = opened := by
    unfold Interpolations.after
    rw [hlast]
  rw [hsame] at hopened
  rw [Interpolations.inside_eq_of_depth hopened hcount] at hfollows'
  have hcode : l₃.source = p.code := hprogress.source_eq
  have hend : l₃.cursor.index = p.code.size := by
    rw [hbeside₃.ready.index_eq_size hbeside₃.text_eq (hcode ▸ hp.isValidUTF8), hcode]
  have hplace : m₃.cursor.index + Utf8.size gap = t.stop + p.code.size := by
    rw [← hbeside₃.index_eq, hend, Nat.add_comm]
  obtain ⟨t', m', hfinds', hsegment, hrunning, hbehind⟩ := exists_finds_continuation
    hbeside₁.ready' hbeside₁.phase' hbeside₃.ready' hbeside₃.phase' hscan hbeside₃.text_eq'
    hbeside₃.blank hcloser
  have hsource : m₃.source = source := hprogress.source_eq'.trans h.source_eq
  have hconfig : m₃.config = config := hbeside₃.config_eq.trans hprogress.config_eq
  rw [hsource, hconfig] at hrunning
  rw [hsource, hplace] at hsegment
  exact ⟨t', m', hfollows'.append (.cons hfinds' hrunning.isFinished (.nil _ _)), hsegment,
    hrunning, hbehind⟩

/-- The interpolations of a template are read one after another. -/
theorem Running.exists_follows_all {t : Token} (parts : List Interpolation)
    (h : m.Running source config t) (hp : p.IsComplete config)
    (hparts : ∀ q ∈ parts, q.IsComplete config)
    (htext : m.cursor.text = Utf8.textFrom p.code.contents 0 ++
      '\x7d' :: (escapeTemplate p.text.toList ++ Interpolation.spell parts)) :
    ∃ tokens last m', Follows m ⟨[0]⟩ tokens m' ⟨[]⟩ ∧
      Interpolates source.contents t.stop (p :: parts) tokens ∧
      m'.Running source config last ∧ m'.cursor.text = [] := by
  induction parts generalizing p m t with
  | nil =>
    obtain ⟨tail, m', hfollows, htail, hrunning, hend⟩ := h.exists_follows ['\x60'] [] hp htext rfl
    have hafter : (⟨[0]⟩ : Interpolations).after tail = ⟨[]⟩ := by
      unfold Interpolations.after
      rw [htail.kind_eq]
      rfl
    rw [hafter] at hfollows
    exact ⟨_, tail, m', hfollows, .last htail, hrunning, hend⟩
  | cons q parts ih =>
    rw [List.forall_mem_cons] at hparts
    rw [Interpolation.spell_cons] at htext
    obtain ⟨middle, m', hfollows, hmiddle, hrunning, hbehind⟩ :=
      h.exists_follows ['\x7b'] _ hp htext rfl
    have hafter : (⟨[0]⟩ : Interpolations).after middle = ⟨[0]⟩ := by
      unfold Interpolations.after
      rw [hmiddle.kind_eq]
      rfl
    rw [hafter] at hfollows
    obtain ⟨tokens, last, m'', hrest, htokens, hend⟩ := ih hrunning hparts.1 hparts.2 hbehind
    refine ⟨_, last, m'', hfollows.append hrest, ?_, hend⟩
    rw [List.append_assoc]
    exact .more hmiddle htokens

/-- Where no text is left, the end is found. -/
theorem Running.exists_finds_end {t : Token} (h : l.Running source config t)
    (htext : l.cursor.text = []) (hvalid : source.contents.IsValidUTF8) (s : Interpolations) :
    ∃ l', l.Finds s { kind := .endOfInput, offset := source.size, len := 0 } l' ∧
      l'.isFinished = true := by
  have hend := scan_of_end htext
  have hsize : l.cursor.index = source.size := by
    rw [h.ready.index_eq_size htext (h.source_eq ▸ hvalid), h.source_eq]
  have htoken : tokenOf { kind := .endOfInput } l.cursor.index l.newlineBefore l.cursor =
      { kind := .endOfInput, offset := source.size, len := 0 } := by
    rw [h.newlineBefore, tokenOf, hsize, Nat.sub_self]
    rfl
  rw [htoken] at hend
  exact ⟨_, .next ((next_of_scanning h.phase).trans hend) rfl, rfl⟩

end Lexer

/-- A template is read as its texts and the tokens of its interpolations: each text is what the
part of the template in its place denotes, and the code between is read as it is alone. -/
theorem replies_interpolate (first : String) (parts : List Interpolation) (hne : parts ≠ [])
    (config : LexerConfig) (hparts : ∀ p ∈ parts, p.IsComplete config) (source : Source)
    (hsource : source.contents = (interpolate first parts).utf8Encode) :
    ∃ (head : Token) (tokens : List Token),
      ((Session.ofSource source config).pullAll .following).map Prod.fst =
        (head :: tokens).map Reply.token ++
          [.token { kind := .endOfInput, offset := source.size, len := 0 }] ∧
      head.Segment source.contents .templateHead 0 first ∧
      Interpolates source.contents head.stop parts tokens := by
  obtain ⟨p, parts, rfl⟩ := List.exists_cons_of_ne_nil hne
  rw [List.forall_mem_cons] at hparts
  rw [interpolate, Interpolation.spell_cons] at hsource
  obtain ⟨head, m, hfinds, hhead, hrunning, htext⟩ := Lexer.exists_finds_head config hsource
  obtain ⟨tokens, last, m', hfollows, htokens, hrunning', hend⟩ :=
    hrunning.exists_follows_all parts hparts.1 hparts.2 htext
  obtain ⟨l, hstop, hfinished⟩ := hrunning'.exists_finds_end hend ⟨_, hsource⟩ ⟨[]⟩
  have hafter : ({} : Interpolations).after head = ⟨[0]⟩ := by
    unfold Interpolations.after
    rw [hhead.kind_eq]
  rw [← hafter] at hfollows
  refine ⟨head, tokens, ?_, hhead, htokens⟩
  have hreplies := Session.replies_of_follows (s := Session.ofSource source config)
    (.cons hfinds hrunning.isFinished hfollows) hstop hfinished
  rw [hreplies, List.map_append]
  rfl

/-! ## A nested template -/

/-- Where there are no slashes, there are no comments. -/
theorem Lexer.not_endsInComment_of_forall {bytes : ByteArray}
    (h : ∀ i, (hi : i < bytes.size) → bytes[i] ≠ 0x2F) (tokens : List Token) :
    ¬ EndsInComment bytes tokens := by
  rintro ⟨offset, start, -, -, ⟨rest, hslashes⟩, -⟩
  have hslash : Utf8.charAt? bytes start = some '/' := by
    cases hch : Utf8.charAt? bytes start with
    | none =>
      rw [Utf8.textFrom_of_none hch] at hslashes
      cases hslashes
    | some ch =>
      rw [Utf8.textFrom_of_some hch] at hslashes
      exact congrArg some (List.cons.inj hslashes).1.symm
  obtain ⟨hlt, hbyte⟩ := getElem?_eq_some_iff.1 (Utf8.getElem?_of_charAt? hslash rfl)
  exact h start hlt hbyte

/-- A template between braces, with a brace and a quote of templates behind it. -/
def bracedTemplate : Interpolation where
  code := ⟨"braced", "\x7b\x60\x7bv\x7d\x60\x7d".toUTF8, 0, by decide⟩
  tokens := [
    { kind := .operator .openBrace, offset := 0, len := 1 },
    { kind := .templateHead, offset := 1, len := 2, flags := { multiLine := true },
      value? := some (.text "") },
    { kind := .identifier, offset := 3, len := 1 },
    { kind := .templateTail, offset := 4, len := 2, flags := { multiLine := true },
      value? := some (.text "") },
    { kind := .operator .closeBrace, offset := 6, len := 1 }]
  text := "\x7bé\x60"

/-- A name and the end of its line. -/
def nameAndLine : Interpolation where
  code := ⟨"name", "n\n".toUTF8, 1, by decide⟩
  tokens := [{ kind := .identifier, offset := 0, len := 1 }]
  text := ""

theorem isComplete_bracedTemplate : bracedTemplate.IsComplete {} where
  isValidUTF8 := ⟨"\x7b\x60\x7bv\x7d\x60\x7d".toList, rfl⟩
  replies_eq := ⟨{ kind := .endOfInput, offset := 7, len := 0 }, rfl, by decide +kernel⟩
  openBraces_eq := by decide +kernel
  balanced := by decide
  not_script := by decide +kernel
  not_endsInComment := Lexer.not_endsInComment_of_forall (by decide) _

theorem isComplete_nameAndLine : nameAndLine.IsComplete {} where
  isValidUTF8 := ⟨"n\n".toList, rfl⟩
  replies_eq := ⟨{ kind := .endOfInput, offset := 2, len := 0, flags := { newlineBefore := true } },
    rfl, by decide +kernel⟩
  openBraces_eq := by decide +kernel
  balanced := by decide
  not_script := by decide +kernel
  not_endsInComment := Lexer.not_endsInComment_of_forall (by decide) _

def nested : Source :=
  ⟨"nested", "\x60a\\\\\x7b\x7b\x60\x7bv\x7d\x60\x7d\x7d\\\x7bé\\\x60\x7bn\n\x7d\x60".toUTF8,
    2, by decide⟩

theorem replies_interpolate_nested :
    ∃ (head : Token) (tokens : List Token),
      ((Session.ofSource nested {}).pullAll .following).map Prod.fst =
        (head :: tokens).map Reply.token ++
          [.token { kind := .endOfInput, offset := 24, len := 0 }] ∧
      head.Segment nested.contents .templateHead 0 "a\\" ∧
      Interpolates nested.contents head.stop [bracedTemplate, nameAndLine] tokens := by
  have hparts : ∀ p ∈ [bracedTemplate, nameAndLine], p.IsComplete {} := by
    rw [List.forall_mem_cons, List.forall_mem_singleton]
    exact ⟨isComplete_bracedTemplate, isComplete_nameAndLine⟩
  exact replies_interpolate "a\\" [bracedTemplate, nameAndLine] (List.cons_ne_nil _ _) {} hparts
    nested (by decide +kernel)

end Lexis
