import Lexis.Proofs.Lexer.Reached
import Lexis.Proofs.Literal.Agreement
import Lexis.Proofs.Scanner.Lines

/-!
# Flags and values

A token tells by its flags how its text begins and whether it is left to decoding, and it has a
value of the sort that its kind asks for (`Token.SettledBy`). None of this is a matter of where the
token stands or of how it was come by: its kind and its text settle it (`driven_settled`).
-/

namespace Lexis

open CharClass

open Scanner (quotedLexeme)

/-! ## What a token tells -/

/-- The flags tell a comment for documentation, and one that is to be kept, from others. -/
structure TokenFlags.TellComment (flags : TokenFlags) (kind : TokenKind) (text : List Char) :
    Prop where
  docComment_iff : flags.docComment = true ↔
    kind = .lineComment ∧ ['/', '/', '/'] <+: text ∧ ¬ ['/', '/', '/', '/'] <+: text
  legalComment_iff : flags.legalComment = true ↔ kind = .blockComment ∧ ['/', '*', '!'] <+: text

/-- There is a value of the sort that the kind asks for, unless it is deferred. -/
structure TokenKind.Takes (kind : TokenKind) (deferred : Bool) (value? : Option LiteralValue) :
    Prop where
  int_iff : (∃ n, value? = some (.int n)) ↔ kind = .intLiteral
  float_iff : (∃ bits, value? = some (.float bits)) ↔ kind = .floatLiteral
  text_iff : (∃ text, value? = some (.text text)) ↔ kind.isQuoted = true ∧ deferred = false
  none_iff : value? = none ↔ kind.isLiteral = false ∨ deferred = true

namespace Token

/-- What stands between the delimiters of a quoted token. -/
def content (t : Token) (bytes : ByteArray) : List Char :=
  (Utf8.lossy ((t.bodySpan bytes).slice bytes)).toList

/-- The flags of a token and the sort of its value are the ones that its kind, its text and, if it
is quoted, its content ask for. -/
structure SettledBy (t : Token) (text content : List Char) : Prop extends
    t.flags.TellComment t.kind text, t.kind.Takes t.flags.deferred t.value? where
  raw_iff : t.flags.raw = true ↔ t.kind = .stringLiteral ∧ ['r'] <+: text
  multiLine_iff : t.flags.multiLine = true ↔
    t.kind ∈ [TokenKind.templateHead, .templateMiddle, .templateTail] ∨
      t.kind = .stringLiteral ∧ (['"', '"', '"'] <+: text ∨ ['\x60'] <+: text)
  deferred_iff : t.flags.deferred = true ↔ t.kind.isQuoted = true ∧
    ((∃ ch ∈ content, isAscii ch = false) ∨ '\\' ∈ content ∧ t.flags.raw = false ∨
      t.kind = .charLiteral ∧ Utf8.size content ≠ 1)

end Token

namespace TokenKind

variable {kind : TokenKind} {deferred : Bool} {value : LiteralValue}

theorem isLiteral_of_isQuoted (h : kind.isQuoted = true) : kind.isLiteral = true := by
  cases kind <;> first | exact h | rfl

theorem isComment_of_isQuoted (h : kind.isQuoted = true) : kind.isComment = false := by
  cases kind <;> first | rfl | cases h

theorem takes_none (h : kind.isLiteral = false ∨ kind.isQuoted = true ∧ deferred = true) :
    kind.Takes deferred none := by
  have hint : kind ≠ .intLiteral := by
    rintro rfl
    simp [isLiteral, isQuoted] at h
  have hfloat : kind ≠ .floatLiteral := by
    rintro rfl
    simp [isLiteral, isQuoted] at h
  have htext : ¬ (kind.isQuoted = true ∧ deferred = false) := by
    rintro ⟨hquoted, rfl⟩
    simp [isLiteral_of_isQuoted hquoted] at h
  exact ⟨by simpa using hint, by simpa using hfloat, by simpa using htext,
    iff_of_true rfl (h.imp_right And.right)⟩

theorem takes_number (hvalue : ∀ text, value ≠ .text text) :
    (Scanner.numberKind value).Takes false (some value) := by
  cases value with
  | int n =>
    exact ⟨⟨fun _ => rfl, fun _ => ⟨n, rfl⟩⟩, ⟨nofun, nofun⟩, ⟨nofun, nofun⟩, ⟨nofun, nofun⟩⟩
  | float bits =>
    exact ⟨⟨nofun, nofun⟩, ⟨fun _ => rfl, fun _ => ⟨bits, rfl⟩⟩, ⟨nofun, nofun⟩, ⟨nofun, nofun⟩⟩
  | text s => exact absurd rfl (hvalue s)

theorem takes_text (hquoted : kind.isQuoted = true) (text : String) :
    kind.Takes false (some (.text text)) := by
  have hint : kind ≠ .intLiteral := by
    rintro rfl
    cases hquoted
  have hfloat : kind ≠ .floatLiteral := by
    rintro rfl
    cases hquoted
  have hliteral := isLiteral_of_isQuoted hquoted
  exact ⟨by simpa using hint, by simpa using hfloat, by simpa using hquoted,
    by simpa using hliteral⟩

end TokenKind

/-! ## Comments -/

section Comments

variable {c c' : Cursor} {ch : Char} {lexeme : Lexeme} {text : List Char}

/-- Where nothing is marked there is no comment to tell. -/
theorem TokenFlags.tellComment_of_not_isComment {flags : TokenFlags} {kind : TokenKind}
    (hcomment : kind.isComment = false) (hdoc : flags.docComment = false)
    (hlegal : flags.legalComment = false) (text : List Char) : flags.TellComment kind text := by
  have hline : kind ≠ .lineComment := by
    rintro rfl
    cases hcomment
  have hblock : kind ≠ .blockComment := by
    rintro rfl
    cases hcomment
  exact ⟨by simp [hdoc, hline], by simp [hlegal, hblock]⟩

/-- A run in front of a line terminator begins like its text, as far as that is slashes. -/
theorem slashes_prefix_takeWhile (n : Nat) :
    List.replicate n '/' <+: text.takeWhile (!isLineTerminator ·) ↔
      List.replicate n '/' <+: text := by
  constructor
  · exact fun h => h.trans (List.takeWhile_prefix _)
  · rintro ⟨rest, rfl⟩
    have hline : ∀ ch ∈ List.replicate n '/', (!isLineTerminator ch) = true := by
      intro ch hch
      rw [List.eq_of_mem_replicate hch]
      rfl
    rw [List.takeWhile_append_of_pos hline]
    exact List.prefix_append ..

theorem doc_iff_of_opening {doc : Bool}
    (hopening : Opening.of '/' ('/' :: text.take 2) = .lineComment doc) :
    doc = true ↔ ['/', '/', '/'] <+: Scanner.lineText '/' '/' text ∧
      ¬ ['/', '/', '/', '/'] <+: Scanner.lineText '/' '/' text := by
  have hone : ['/'] <+: text.takeWhile (!isLineTerminator ·) ↔ ['/'] <+: text :=
    slashes_prefix_takeWhile 1
  have htwo : ['/', '/'] <+: text.takeWhile (!isLineTerminator ·) ↔ ['/', '/'] <+: text :=
    slashes_prefix_takeWhile 2
  rw [← Opening.lineComment.inj hopening]
  simp only [Scanner.lineText, List.cons_prefix_cons, true_and, hone, htwo]
  cases text with
  | nil => simp
  | cons first text =>
    by_cases hfirst : first = '/'
    · cases text with
      | nil => simp [hfirst]
      | cons second text => simp [hfirst, @eq_comm _ '/' second]
    · simp [hfirst, @eq_comm _ '/' first]

theorem legal_iff_of_opening {legal : Bool} {inner rest : List Char}
    (hopening : Opening.of '/' ('*' :: ((inner ++ ['*', '/']) ++ rest).take 2) =
      .blockComment legal) :
    legal = true ↔ ['/', '*', '!'] <+: '/' :: '*' :: (inner ++ ['*', '/']) := by
  rw [← Opening.blockComment.inj hopening]
  cases inner with
  | nil => simp
  | cons first inner => simp [@eq_comm _ '!' first]

/-- The opening of a comment has seen what its text begins with. -/
theorem Lexer.tellComment_of_scanAt (hcur : c.current = .scalar ch)
    (hscan : scanAt c ch = .ok lexeme c') (hcomment : lexeme.kind.isComment = true) :
    ∃ passed, c.Passes passed c' ∧ lexeme.flags.TellComment lexeme.kind passed := by
  cases scansComment_of_scanAt hcur hscan hcomment with
  | line hahead htext hopening hscan =>
    obtain ⟨_, hfound, hpass⟩ := Scanner.lineComment_eq_ok _ hahead.started htext
    cases hscan.symm.trans hfound
    have hdoc := doc_iff_of_opening hopening
    exact ⟨_, hahead.trans hpass, hdoc.trans (and_iff_right rfl).symm, ⟨nofun, nofun⟩⟩
  | block hahead htext hopening hscan =>
    obtain ⟨inner, rest, rfl, hbody⟩ :=
      Scanner.commentBody_of_blockComment hahead.started htext hscan
    obtain ⟨_, hfound, hpass⟩ := Scanner.blockComment_eq_ok _ hahead.started htext hbody
    cases hscan.symm.trans hfound
    have hlegal := legal_iff_of_opening hopening
    exact ⟨_, hahead.trans hpass, ⟨nofun, nofun⟩, hlegal.trans (and_iff_right rfl).symm⟩

end Comments

/-! ## Tokens without quotes -/

namespace Token.SettledBy

variable {t : Token} {text : List Char}

theorem of_not_isQuoted (hquoted : t.kind.isQuoted = false) (hraw : t.flags.raw = false)
    (hmulti : t.flags.multiLine = false) (hdeferred : t.flags.deferred = false)
    (hcomment : t.flags.TellComment t.kind text) (hvalue : t.kind.Takes false t.value?)
    (content : List Char) : t.SettledBy text content := by
  have hstring : t.kind ≠ .stringLiteral := by
    intro hkind
    rw [hkind] at hquoted
    cases hquoted
  have hall : ∀ kind ∈ [TokenKind.templateHead, .templateMiddle, .templateTail],
      kind.isQuoted = true := by decide
  have htemplate : t.kind ∉ [TokenKind.templateHead, .templateMiddle, .templateTail] :=
    fun hmem => ne_true_of_eq_false hquoted (hall _ hmem)
  refine ⟨hcomment, by rwa [hdeferred], ?_, ?_, ?_⟩
  · simp [hraw, hstring]
  · rw [hmulti]
    exact iff_of_false nofun (not_or.2 ⟨htemplate, fun h => hstring h.1⟩)
  · simp [hdeferred, hquoted]

theorem of_unmarked (h : t.Unmarked) (hcomment : t.kind.isComment = false)
    (hliteral : t.kind.isLiteral = false) (text content : List Char) :
    t.SettledBy text content := by
  have hquoted : t.kind.isQuoted = false :=
    eq_false_of_ne_true fun hquoted => by
      rw [TokenKind.isLiteral_of_isQuoted hquoted] at hliteral
      cases hliteral
  refine .of_not_isQuoted hquoted (congrArg TokenFlags.raw h.flags_eq)
    (congrArg TokenFlags.multiLine h.flags_eq) (congrArg TokenFlags.deferred h.flags_eq) ?_ ?_ _
  · exact TokenFlags.tellComment_of_not_isComment hcomment
      (congrArg TokenFlags.docComment h.flags_eq) (congrArg TokenFlags.legalComment h.flags_eq) _
  · rw [h.value?_eq]
    exact TokenKind.takes_none (.inl hliteral)

end Token.SettledBy

section Scanned

variable {c : Cursor} {lexeme : Lexeme} {text : List Char} {start : Nat}

theorem Lexer.flags_tokenOf (newline : Bool) : (tokenOf lexeme start newline c).flags =
    { lexeme.flags with newlineBefore := lexeme.flags.newlineBefore || newline } := by
  simp [tokenOf, TokenFlags.union]

/-- Only a comment has to be compared with its text. -/
theorem Lexeme.Shape.settledBy (h : lexeme.Shape) (hquoted : lexeme.kind.isQuoted = false)
    (htells : lexeme.kind.isComment = true → lexeme.flags.TellComment lexeme.kind text)
    (newline : Bool) (content : List Char) :
    (Lexer.tokenOf lexeme start newline c).SettledBy text content := by
  cases h with
  | lineComment | blockComment =>
    obtain ⟨hdoc, hlegal⟩ := htells rfl
    refine .of_not_isQuoted rfl rfl rfl rfl ?_ (TokenKind.takes_none (.inl rfl)) _
    rw [Lexer.flags_tokenOf]
    exact ⟨hdoc, hlegal⟩
  | quoted style hstyle text? =>
    rw [Scanner.kind_quotedLexeme, hstyle] at hquoted
    cases hquoted
  | @number value hvalue =>
    have hcomment : (Scanner.numberKind value).isComment = false := by cases value <;> rfl
    exact .of_not_isQuoted hquoted rfl rfl rfl
      (TokenFlags.tellComment_of_not_isComment hcomment rfl rfl _)
      (TokenKind.takes_number hvalue) _
  | word hliteral hcomment => exact .of_unmarked ⟨rfl, rfl⟩ hcomment hliteral _ _
  | problem => exact .of_unmarked ⟨rfl, rfl⟩ rfl rfl _ _

/-- A token that is not quoted. -/
theorem Lexer.settledBy_of_scanAt {source : Source} {c' : Cursor} {ch : Char} (hat : At source c)
    (hcur : c.current = .scalar ch) (hscan : scanAt c ch = .ok lexeme c')
    (hquoted : lexeme.kind.isQuoted = false) (newline : Bool) (content : List Char) :
    ∃ text, Utf8.Spells source.contents (tokenOf lexeme c.index newline c').offset
        (tokenOf lexeme c.index newline c').stop text ∧
      (tokenOf lexeme c.index newline c').SettledBy text content := by
  have hshape := shape_of_scanAt hscan
  by_cases hcomment : lexeme.kind.isComment = true
  · obtain ⟨text, hpass, htells⟩ := tellComment_of_scanAt hcur hscan hcomment
    exact ⟨text, hat.spells_tokenOf hpass newline,
      hshape.settledBy hquoted (fun _ => htells) newline content⟩
  · obtain ⟨⟨text, -, hpass⟩, -⟩ := scanAt_ok hcur hscan
    exact ⟨text, hat.spells_tokenOf hpass newline,
      hshape.settledBy hquoted (fun h => absurd h hcomment) newline content⟩

end Scanned

/-! ## Quoted tokens -/

namespace QuoteStyle

variable {style : QuoteStyle} {delimiter body closer more : List Char} {ending : Ending}
  {kind : TokenKind}

/-- A raw string is known by its first letter. -/
theorem Heads.raw_iff (h : style.Heads delimiter kind) (more : List Char) :
    style.flags.raw = true ↔ kind = .stringLiteral ∧ ['r'] <+: delimiter ++ more := by
  cases h with
  | opening style ending =>
    cases style <;> cases ending <;> simp [flags, QuoteStyle.kind, QuoteStyle.opening]
  | continuation ending => cases ending <;> simp [flags, Scanner.continuationKind]

theorem Heads.multiLine_iff (h : style.Heads delimiter kind)
    (hplain : style = .string → ¬ ['"', '"', '"'] <+: delimiter ++ more) :
    style.flags.multiLine = true ↔
      kind ∈ [TokenKind.templateHead, .templateMiddle, .templateTail] ∨
        kind = .stringLiteral ∧
          (['"', '"', '"'] <+: delimiter ++ more ∨ ['\x60'] <+: delimiter ++ more) := by
  cases h with
  | opening style ending =>
    cases style with
    | string => cases ending <;> simpa [flags, QuoteStyle.kind, QuoteStyle.opening] using hplain
    | _ => cases ending <;> simp [flags, QuoteStyle.kind, QuoteStyle.opening]
  | continuation ending => cases ending <;> simp [flags, Scanner.continuationKind]

/-- A string with one quote in front does not begin with three: its body would not be crossed. -/
theorem not_tripled_string (hcrosses : QuoteStyle.string.Crosses body (closer ++ more))
    (hcloser : (closer, ending) ∈ QuoteStyle.string.closers) :
    ¬ ['"', '"', '"'] <+: QuoteStyle.string.opening ++ (body ++ closer) := by
  obtain ⟨rfl, -⟩ := Prod.mk.inj (List.mem_singleton.1 hcloser)
  cases body with
  | nil => decide
  | cons ch body =>
    have hlive := (hcrosses.live (List.cons_ne_nil ch body)).2
    intro hprefix
    obtain ⟨rfl, -⟩ : '"' = ch ∧ _ := by
      simpa [QuoteStyle.opening, List.cons_prefix_cons] using hprefix
    cases hlive

/-- The value of a literal is left to decoding. That of a character is, unless it is one byte
long. -/
def delays (style : QuoteStyle) (kind : TokenKind) (body : List Char) : Bool :=
  style.defers body || kind == .charLiteral && Utf8.size body != 1

theorem delays_iff : style.delays kind body = true ↔ (∃ ch ∈ body, isAscii ch = false) ∨
    '\\' ∈ body ∧ style.flags.raw = false ∨ kind = .charLiteral ∧ Utf8.size body ≠ 1 := by
  simp only [delays, defers, raw_flags, Bool.or_eq_true, Bool.and_eq_true, List.contains_iff_mem,
    List.any_eq_true, Bool.not_eq_true', Bool.not_eq_false', beq_iff_eq, bne_iff_ne]
  rw [or_comm (a := _ ∧ '\\' ∈ body), or_assoc, and_comm (b := '\\' ∈ body)]

theorem quotedLexeme_eq (style : QuoteStyle) (kind : TokenKind) (body : List Char) :
    quotedLexeme kind style.flags (style.value? body) =
      { kind
        flags := { style.flags with deferred := style.delays kind body }
        value? :=
          if style.delays kind body then none else some (.text (String.ofList body)) } := by
  have hsize : (String.ofList body).utf8ByteSize = Utf8.size body := Utf8.size_utf8Encode body
  have hnot : (kind == .charLiteral && Utf8.size body != 1) =
      !(kind != .charLiteral || Utf8.size body == 1) := by
    rw [Bool.not_or, bne, bne, Bool.not_not]
  unfold quotedLexeme value? delays
  cases style.defers body with
  | true => cases style <;> rfl
  | false =>
    simp only [Bool.false_eq_true, if_false, Option.filter_some, hsize, Bool.false_or, hnot]
    cases (kind != .charLiteral || Utf8.size body == 1) <;> cases style <;> rfl

end QuoteStyle

/-- The token is a literal of the style, with the flags and the value that its body asks for. -/
structure Token.IsLiteral (t : Token) (bytes : ByteArray) (style : QuoteStyle)
    (delimiter body closer : List Char) : Prop where
  quotes : t.Quotes bytes style delimiter body closer
  heads : style.Heads delimiter t.kind
  crosses : ∃ rest, style.Crosses body (closer ++ rest)
  flags_eq : t.flags = { style.flags with
    newlineBefore := t.flags.newlineBefore
    deferred := style.delays t.kind body }
  value?_eq : t.value? =
    if style.delays t.kind body then none else some (.text (String.ofList body))

namespace Token.IsLiteral

variable {t : Token} {bytes : ByteArray} {style : QuoteStyle} {delimiter body closer : List Char}

theorem takes (h : t.IsLiteral bytes style delimiter body closer) :
    t.kind.Takes t.flags.deferred t.value? := by
  have hdeferred : t.flags.deferred = style.delays t.kind body :=
    congrArg TokenFlags.deferred h.flags_eq
  rw [hdeferred, h.value?_eq]
  cases style.delays t.kind body with
  | true => exact TokenKind.takes_none (.inr ⟨h.quotes.isQuoted, rfl⟩)
  | false => exact TokenKind.takes_text h.quotes.isQuoted _

theorem settledBy (h : t.IsLiteral bytes style delimiter body closer) :
    t.SettledBy (delimiter ++ (body ++ closer)) body := by
  obtain ⟨rest, hcrosses⟩ := h.crosses
  obtain ⟨ending, hcloser⟩ := h.quotes.closes
  have hcomment := TokenKind.isComment_of_isQuoted h.quotes.isQuoted
  have hdoc : t.flags.docComment = false := by
    rw [h.flags_eq]
    cases style <;> rfl
  have hlegal : t.flags.legalComment = false := by
    rw [h.flags_eq]
    cases style <;> rfl
  have hplain : style = .string → ¬ ['"', '"', '"'] <+: delimiter ++ (body ++ closer) := by
    rintro rfl
    obtain rfl | ⟨hstyle, -⟩ := h.quotes.opens
    · exact QuoteStyle.not_tripled_string hcrosses hcloser
    · cases hstyle
  refine ⟨TokenFlags.tellComment_of_not_isComment hcomment hdoc hlegal _, h.takes, ?_, ?_, ?_⟩
  · rw [h.quotes.raw_eq]
    exact h.heads.raw_iff _
  · rw [h.quotes.multiLine_eq]
    exact h.heads.multiLine_iff hplain
  · rw [h.quotes.raw_eq, ← QuoteStyle.delays_iff, h.quotes.isQuoted,
      congrArg TokenFlags.deferred h.flags_eq]
    exact (and_iff_right rfl).symm

/-- The content of a literal is its body. -/
theorem content_eq (h : t.IsLiteral bytes style delimiter body closer) :
    t.content bytes = body := by
  rw [content, Span.slice, h.quotes.slice?_bodySpan, Option.getD_some, Utf8.lossy,
    Utf8.fromUTF8?_utf8Encode]
  exact String.toList_ofList

end Token.IsLiteral

theorem Token.MadeOf.isLiteral {source : Source} {style : QuoteStyle} {delimiter : List Char}
    {t : Token} (h : t.MadeOf source style delimiter) :
    ∃ body closer, t.IsLiteral source.contents style delimiter body closer := by
  obtain ⟨hat, hheads, hspells, hscan, newline⟩ := h
  obtain ⟨body, closer, hpass, hcrosses, hcloser, -, rfl⟩ :=
    (Scanner.ends_quotedBody style _ hat.started).of_ok hscan
  have hall := hspells.append (hat.spells hpass)
  rw [← List.append_assoc] at hall
  have hmem := (QuoteStyle.prefix_of_closing? hcloser).1
  have hquotes := Lexer.quotes_tokenOf hall hheads.opens hmem hheads.isQuoted
    hheads.eq_charLiteral_iff (style.value? body) newline
  refine ⟨body, closer, hquotes, ?_, ⟨_, hcrosses⟩, ?_, ?_⟩
  · rwa [Lexer.tokenOf, Scanner.kind_quotedLexeme]
  · rw [Lexer.flags_tokenOf, style.quotedLexeme_eq]
    rfl
  · rw [style.quotedLexeme_eq]
    rfl

namespace Lexer

variable {source : Source} {t : Token}

theorem Origin.isLiteral (h : Origin source t) (hquoted : t.kind.isQuoted = true) :
    ∃ style delimiter body closer, t.IsLiteral source.contents style delimiter body closer := by
  obtain ⟨style, delimiter, hmade⟩ := h.madeOf hquoted
  exact ⟨style, delimiter, hmade.isLiteral⟩

theorem Origin.settledBy (h : Origin source t) :
    t.SettledBy (t.text source.contents).toList (t.content source.contents) := by
  by_cases hquoted : t.kind.isQuoted = true
  · obtain ⟨style, delimiter, body, closer, hliteral⟩ := h.isLiteral hquoted
    have hspells := hliteral.quotes.spells
    rw [List.append_assoc] at hspells
    rw [Token.text_of_spells hspells, String.toList_ofList, hliteral.content_eq]
    exact hliteral.settledBy
  · cases h with
    | finish hkind hunmarked =>
      exact .of_unmarked hunmarked (by rw [hkind]; rfl) (by rw [hkind]; rfl) _ _
    | script hkind hunmarked =>
      exact .of_unmarked hunmarked (by rw [hkind]; rfl) (by rw [hkind]; rfl) _ _
    | scan hat hcur hscan newline =>
      obtain ⟨text, hspells, hsettled⟩ :=
        settledBy_of_scanAt hat hcur hscan (eq_false_of_ne_true hquoted) newline _
      rw [Token.text_of_spells hspells, String.toList_ofList]
      exact hsettled
    | rescan hat hbrace hscan newline =>
      obtain hkind | hkind := kind_templateContinuation hscan <;>
        exact absurd (by rw [tokenOf, hkind]; rfl) hquoted

end Lexer

/-- Whatever a caller chooses, the kind and the text of every token settle its flags and the sort of
its value, and the content of a quoted one is what its text has between the delimiters. -/
theorem driven_settled (source : Source) (config : LexerConfig) (choices : List Bool) (t : Token)
    (ht : .ok t ∈ ((Lexer.ofSource source config).driven choices).1) :
    t.SettledBy (t.text source.contents).toList (t.content source.contents) ∧
      (t.kind.isQuoted = true → ∃ style delimiter closer,
        t.Quotes source.contents style delimiter (t.content source.contents) closer) := by
  have horigin : Lexer.Origin source t :=
    Lexer.origin_of_mem_driven (Lexer.ready_ofSource source config) nofun choices ht
  refine ⟨horigin.settledBy, fun hquoted => ?_⟩
  obtain ⟨style, delimiter, body, closer, hliteral⟩ := horigin.isLiteral hquoted
  rw [hliteral.content_eq]
  exact ⟨style, delimiter, closer, hliteral.quotes⟩

/-- A template that goes on behind its interpolation with a letter that is not ASCII. -/
def wideTemplate : Source := ⟨"template", "\x60a\x7bb\x7dé\x60".toUTF8, 0, by decide⟩

theorem driven_settled_wideTemplate :
    ∃ choices t, .ok t ∈ ((Lexer.ofSource wideTemplate {}).driven choices).1 ∧
      t.kind = .templateTail ∧ t.flags.deferred = true ∧
      t.SettledBy ['\x7d', 'é', '\x60'] ['é'] := by
  let head : Token :=
    { kind := .templateHead, offset := 0, len := 3, flags := { multiLine := true }
      value? := some (.text "a") }
  let name : Token := { kind := .identifier, offset := 3, len := 1 }
  let tail : Token :=
    { kind := .templateTail, offset := 4, len := 4
      flags := { multiLine := true, deferred := true } }
  have hresults : ((Lexer.ofSource wideTemplate {}).driven [false, false, true]).1 =
      [.ok head, .ok name, .ok tail] := by
    decide +kernel
  have hmem : .ok tail ∈ ((Lexer.ofSource wideTemplate {}).driven [false, false, true]).1 := by
    rw [hresults]
    exact List.mem_of_getElem? (i := 2) rfl
  have htext : (tail.text wideTemplate.contents).toList = ['\x7d', 'é', '\x60'] := by decide +kernel
  have hcontent : tail.content wideTemplate.contents = ['é'] := by decide +kernel
  have hsettled := (driven_settled wideTemplate {} _ tail hmem).1
  rw [htext, hcontent] at hsettled
  exact ⟨_, tail, hmem, rfl, rfl, hsettled⟩

end Lexis
