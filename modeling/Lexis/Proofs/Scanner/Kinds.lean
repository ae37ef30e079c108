import Lexis.Proofs.Scanner.Token

/-!
# What an opening makes

How a token begins settles of what kind it can be (`Opening.yields_scanner`), and an opening that
was recognised tells what has been seen (`Opening.begins_of`).
-/

namespace Lexis

/-- An operator is recognised by its spelling. -/
theorem Operator.spelling_prefix_of_recognize? {text : List Char} {op : Operator}
    (h : recognize? text = some op) : op.spelling.toList <+: text := by
  unfold recognize? at h
  split at h
  case h_34 => split at h <;> cases h <;> exact ⟨_, rfl⟩
  all_goals cases h <;> exact ⟨_, rfl⟩

namespace Scanner

variable {α β : Type} {p : α → Prop}

/-- Every result of the scanner has the property. -/
def Yields (s : Scanner α) (p : α → Prop) : Prop := ∀ c, Ends s c (fun a _ => p a) fun _ => True

theorem Yields.bind {s : Scanner β} {k : β → Scanner α} (h : ∀ b, Yields (k b) p) :
    Yields (s >>= k) p := by
  intro c
  rw [ends_bind]
  unfold Ends
  cases s c with
  | ok b c' => exact h b c'
  | error e c' => trivial

theorem yields_pure {a : α} (h : p a) : Yields (pure a) p := fun _ => h

theorem yields_fail (e : LexError) : Yields (fail e : Scanner α) p := fun _ => trivial

def IsNumberKind (kind : TokenKind) : Prop :=
  kind = .intLiteral ∨ kind = .floatLiteral ∨ kind = .syntaxError

theorem yields_numberLexeme (value : LiteralValue) :
    Yields (numberLexeme value) fun lexeme => IsNumberKind lexeme.kind := by
  unfold numberLexeme
  refine .bind fun next => ?_
  split
  · exact .bind fun _ => .bind fun _ => .bind fun _ => .bind fun _ => .bind fun _ =>
      yields_pure (.inr (.inr rfl))
  · apply yields_pure
    cases value with
    | int => exact .inl rfl
    | float => exact .inr (.inl rfl)
    | text => exact .inr (.inl rfl)

end Scanner

namespace Opening

open Scanner (Yields yields_pure yields_fail)

/-- The kinds that a token with the opening can be of. -/
def Makes (kind : TokenKind) : Opening → Prop
  | .lineComment _ => kind = .lineComment
  | .blockComment _ => kind = .blockComment
  | .string | .tripleString | .rawString => kind = .stringLiteral
  | .character => kind = .charLiteral
  | .template => kind = .stringLiteral ∨ kind = .templateHead
  | .escapedName => kind = .escapedKeyword ∨ kind = .identifier
  | .number | .basedNumber _ => Scanner.IsNumberKind kind
  | .leadingZero => False
  | .operator op => kind = .operator op
  | .name => kind = .identifier ∨ ∃ k, kind = .keyword k
  | .unexpected _ => kind = .syntaxError

/-- Only the openings of comments make comments. -/
theorem Makes.eq_comment {opening : Opening} {kind : TokenKind} (h : opening.Makes kind)
    (hcomment : kind.isComment = true) :
    (∃ doc, opening = .lineComment doc) ∨ ∃ legal, opening = .blockComment legal := by
  cases opening with
  | lineComment doc => exact .inl ⟨doc, rfl⟩
  | blockComment legal => exact .inr ⟨legal, rfl⟩
  | template | escapedName => obtain rfl | rfl := h <;> cases hcomment
  | number | basedNumber => obtain rfl | rfl | rfl := h <;> cases hcomment
  | leadingZero => exact h.elim
  | name => obtain rfl | ⟨k, rfl⟩ := h <;> cases hcomment
  | string | tripleString | character | rawString | operator | unexpected =>
    cases h
    cases hcomment

theorem yields_quoted (p : TokenKind → Prop) {style : QuoteStyle} {width : Nat}
    {kinds : Ending → TokenKind} {flags : TokenFlags} (h : ∀ ending, p (kinds ending)) :
    Yields (Scanner.quoted style width kinds flags) fun lexeme => p lexeme.kind := by
  unfold Scanner.quoted
  refine .bind fun _ => .bind fun _ => .bind fun body => yields_pure ?_
  rw [Scanner.kind_quotedLexeme]
  exact h body.1.ending

theorem yields_string : Yields Scanner.string fun lexeme => lexeme.kind = .stringLiteral :=
  yields_quoted (· = .stringLiteral) fun _ => rfl

theorem yields_tripleString :
    Yields Scanner.tripleString fun lexeme => lexeme.kind = .stringLiteral :=
  yields_quoted (· = .stringLiteral) fun _ => rfl

theorem yields_character : Yields Scanner.character fun lexeme => lexeme.kind = .charLiteral :=
  yields_quoted (· = .charLiteral) fun _ => rfl

theorem yields_template : Yields Scanner.template fun lexeme =>
    lexeme.kind = .stringLiteral ∨ lexeme.kind = .templateHead := by
  apply yields_quoted fun kind => kind = .stringLiteral ∨ kind = .templateHead
  intro ending
  cases ending with
  | closed => exact .inl rfl
  | interpolation => exact .inr rfl

theorem yields_rawString :
    Yields Scanner.rawString fun lexeme => lexeme.kind = .stringLiteral := by
  unfold Scanner.rawString
  refine .bind fun _ => .bind fun _ => .bind fun hashes => .bind fun next => ?_
  split
  · exact .bind fun _ => .bind fun _ => yields_pure (Scanner.kind_quotedLexeme ..)
  · exact .bind fun _ => yields_fail _

theorem yields_name : Yields Scanner.name fun lexeme =>
    lexeme.kind = .identifier ∨ ∃ k, lexeme.kind = .keyword k := by
  unfold Scanner.name
  refine .bind fun _ => .bind fun _ => .bind fun _ => .bind fun k? => ?_
  cases k? with
  | none => exact yields_pure (.inl rfl)
  | some k => exact yields_pure (.inr ⟨k, rfl⟩)

theorem yields_escapedName : Yields Scanner.escapedName fun lexeme =>
    lexeme.kind = .escapedKeyword ∨ lexeme.kind = .identifier := by
  unfold Scanner.escapedName
  refine .bind fun _ => .bind fun _ => .bind fun _ => .bind fun _ => .bind fun k? => ?_
  cases k? with
  | none => exact yields_pure (.inr rfl)
  | some k => exact yields_pure (.inl rfl)

theorem yields_decimalNumber :
    Yields Scanner.decimalNumber fun lexeme => Scanner.IsNumberKind lexeme.kind := by
  unfold Scanner.decimalNumber
  exact .bind fun _ => .bind fun _ => .bind fun _ => Scanner.yields_numberLexeme _

theorem yields_leadingZero (p : Lexeme → Prop) : Yields Scanner.leadingZero p := by
  unfold Scanner.leadingZero
  exact .bind fun _ => yields_fail _

theorem yields_basedNumber (base : Base) :
    Yields (Scanner.basedNumber base) fun lexeme => Scanner.IsNumberKind lexeme.kind := by
  unfold Scanner.basedNumber
  refine .bind fun _ => .bind fun _ => .bind fun digits => ?_
  split
  · exact yields_fail _
  · exact Scanner.yields_numberLexeme _

theorem yields_scanner (opening : Opening) :
    Yields opening.scanner fun lexeme => opening.Makes lexeme.kind := by
  cases opening with
  | lineComment doc =>
    exact .bind fun _ => .bind fun _ => .bind fun _ => .bind fun _ => .bind fun _ => yields_pure rfl
  | blockComment legal =>
    exact .bind fun _ => .bind fun _ => .bind fun _ => .bind fun _ => .bind fun _ => yields_pure rfl
  | string => exact yields_string
  | tripleString => exact yields_tripleString
  | character => exact yields_character
  | template => exact yields_template
  | rawString => exact yields_rawString
  | escapedName => exact yields_escapedName
  | number => exact yields_decimalNumber
  | basedNumber base => exact yields_basedNumber base
  | leadingZero => exact yields_leadingZero _
  | operator op => exact .bind fun _ => yields_pure rfl
  | name => exact yields_name
  | unexpected d => exact .bind fun _ => .bind fun _ => .bind fun _ => yields_pure rfl

/-! ## What has been seen -/

/-- What a text begins with where the opening is recognised, if that is settled. -/
def Begins (text : List Char) : Opening → Prop
  | .string => QuoteStyle.string.opening <+: text
  | .tripleString => QuoteStyle.tripleString.opening <+: text
  | .character => QuoteStyle.character.opening <+: text
  | .template => QuoteStyle.template.opening <+: text
  | .rawString => ['r'] <+: text
  | .operator op => op.spelling.toList <+: text
  | _ => True

theorem begins_of (ch : Char) (ahead : List Char) :
    (Opening.of ch ahead).Begins (ch :: ahead) := by
  have hfound := found_of ch ahead
  generalize Opening.of ch ahead = opening at hfound
  cases hfound with
  | string | tripleString | character | template | rawString => exact ⟨_, rfl⟩
  | operator hspelled => exact Operator.spelling_prefix_of_recognize? hspelled
  | _ => trivial

theorem Begins.extend {opening : Opening} {text more : List Char} (h : opening.Begins text)
    (hmore : text <+: more) : opening.Begins more := by
  cases opening <;> first | trivial | exact List.IsPrefix.trans h hmore

/-! ## Quoted literals -/

/-- The style of the literals with the opening, if that settles it. -/
def style? : Opening → Option QuoteStyle
  | .string => some .string
  | .tripleString => some .tripleString
  | .character => some .character
  | .template => some .template
  | _ => none

variable {opening : Opening} {style : QuoteStyle}

theorem scanner_of_style? (h : opening.style? = some style) :
    opening.scanner = Scanner.quoted style style.opening.length style.kind style.flags := by
  have htemplate : Scanner.templateKind = QuoteStyle.template.kind := by
    funext ending
    cases ending <;> rfl
  cases opening <;> cases h
  case template => rw [← htemplate]; rfl
  all_goals rfl

theorem Begins.of_style? {text : List Char} (h : opening.Begins text)
    (hstyle : opening.style? = some style) : style.opening <+: text := by
  cases opening <;> cases hstyle <;> exact h

/-- A quoted token is of a style that its opening settles, or it is a raw string. -/
theorem Makes.eq_rawString {kind : TokenKind} (h : opening.Makes kind)
    (hquoted : kind.isQuoted = true) (hstyle : opening.style? = none) : opening = .rawString := by
  cases opening with
  | rawString => rfl
  | string | tripleString | character | template => cases hstyle
  | escapedName => obtain rfl | rfl := h <;> cases hquoted
  | number | basedNumber => obtain rfl | rfl | rfl := h <;> cases hquoted
  | leadingZero => exact h.elim
  | name => obtain rfl | ⟨k, rfl⟩ := h <;> cases hquoted
  | lineComment | blockComment | operator | unexpected => cases h; cases hquoted

end Opening

namespace Lexer

variable {c c' : Cursor} {ch : Char} {lexeme : Lexeme}

theorem begins_text (hcur : c.current = .scalar ch) :
    (Opening.of ch (c.lookahead 3).1).Begins c.text := by
  rw [c.lookahead_fst, Cursor.text_of_scalar hcur]
  refine (Opening.begins_of ch _).extend ?_
  exact List.cons_prefix_cons.2 ⟨rfl, List.take_prefix 3 c.upcoming⟩

theorem makes_of_scanAt (hscan : scanAt c ch = .ok lexeme c') :
    (Opening.of ch (c.lookahead 3).1).Makes lexeme.kind := by
  have hyields := Opening.yields_scanner (Opening.of ch (c.lookahead 3).1) (c.lookahead 3).2
  exact hyields.of_ok hscan

/-- Nothing but its opening makes an operator. -/
theorem opening_of_operator {op : Operator} (hscan : scanAt c ch = .ok lexeme c')
    (hkind : lexeme.kind = .operator op) :
    Opening.of ch (c.lookahead 3).1 = .operator op := by
  have hmakes := makes_of_scanAt hscan
  cases hopening : Opening.of ch (c.lookahead 3).1 <;>
    simp_all [Opening.Makes, Scanner.IsNumberKind]

end Lexer

end Lexis
