import Lexis.Lexer.Scanner

/-!
# Scanning quoted literals

Strings, characters, raw strings and templates. A body ends at the first closer of its style that is
not escaped. A body without escapes that is all ASCII is the value of the token; any other is
decoded on demand.
-/

namespace Lexis

open CharClass

inductive QuoteStyle where
  | string
  | tripleString
  | character
  | template
  /-- A string without escapes, with so many number signs beside its quotes. -/
  | raw (hashes : Nat)
  deriving DecidableEq

/-- How a quoted body ends: for good, or with an interpolation. -/
inductive Ending where
  | closed
  | interpolation
  deriving DecidableEq

namespace QuoteStyle

/-- The texts that end a body, and how they do. -/
def closers : QuoteStyle → List (List Char × Ending)
  | .string => [(['"'], .closed)]
  | .tripleString => [(['"', '"', '"'], .closed)]
  | .character => [(['\''], .closed)]
  | .template => [(['\x60'], .closed), (['\x7b'], .interpolation)]
  | .raw hashes => [('"' :: List.replicate hashes '#', .closed)]

/-- Whether a line terminator breaks the literal off. -/
def isSingleLine : QuoteStyle → Bool
  | .string | .character => true
  | _ => false

/-- Whether a backslash escapes what follows it. -/
def hasEscapes : QuoteStyle → Bool
  | .raw _ => false
  | _ => true

def unterminated : QuoteStyle → LexErrorKind
  | .string | .tripleString => .unterminatedString
  | .character => .unterminatedChar
  | .template => .unterminatedTemplate
  | .raw _ => .unterminatedRawString

end QuoteStyle

/-- What a scan has found out about a quoted body. -/
structure QuotedBody where
  /-- The offset of the closer. -/
  stop : Nat
  ending : Ending
  hasEscape : Bool
  nonAscii : Bool

namespace Scanner

/-- The first of the closers that the text from the current code point on begins with: its length
and ending. -/
def closerAt : List (List Char × Ending) → Cursor → Option (Nat × Ending) × Cursor
  | [], c => (none, c)
  | (text, ending) :: more, c =>
    let (found, c) := c.startsWith text
    if found then (some (text.length, ending), c) else closerAt more c

theorem closerAt_snd (closers : List (List Char × Ending)) (c : Cursor) :
    (closerAt closers c).2.current = c.current ∧
      (closerAt closers c).2.remaining = c.remaining := by
  induction closers generalizing c with
  | nil => exact ⟨rfl, rfl⟩
  | cons closer more ih =>
    have hcur := c.current_startsWith closer.1
    have hrem := c.remaining_startsWith closer.1
    simp only [closerAt]
    split
    · exact ⟨hcur, hrem⟩
    · obtain ⟨hcur', hrem'⟩ := ih (c.startsWith closer.1).2
      exact ⟨hcur'.trans hcur, hrem'.trans hrem⟩

/-- The cursor behind a line feed that follows the current carriage return, or where it was. -/
def skipLineFeed (c : Cursor) : Cursor :=
  let (next, c) := c.peek 1
  if next.is '\n' then c.advance else c

/-- The cursor behind the current code point, if there is one. -/
def stepOver (c : Cursor) : Cursor := if c.current.isScalar then c.advance else c

/-- The cursor behind a backslash and what it escapes: a code point, or a carriage return with a
line feed. -/
def skipEscape (c : Cursor) : Cursor :=
  stepOver (if c.advance.current.is '\r' then skipLineFeed c.advance else c.advance)

theorem remaining_skipLineFeed_le (c : Cursor) : (skipLineFeed c).remaining ≤ c.remaining := by
  have hpeek := c.remaining_peek 1
  have hadv := (c.peek 1).2.remaining_advance_le
  simp only [skipLineFeed]
  split <;> omega

theorem remaining_stepOver_le (c : Cursor) : (stepOver c).remaining ≤ c.remaining := by
  unfold stepOver
  split
  · exact c.remaining_advance_le
  · exact Nat.le_refl _

theorem remaining_skipEscape_lt {c : Cursor} {ch : Char} (h : c.current = .scalar ch) :
    (skipEscape c).remaining < c.remaining := by
  have hadv := Cursor.remaining_advance_lt h
  refine Nat.lt_of_le_of_lt (remaining_stepOver_le _) ?_
  split
  · exact Nat.lt_of_le_of_lt (remaining_skipLineFeed_le _) hadv
  · exact hadv

/-- The failure of a literal that ends before the current code point without a closer. -/
def brokenOff (style : QuoteStyle) (start : Nat) (c : Cursor) :
    EStateM.Result LexError Cursor QuotedBody :=
  .error (.between style.unterminated start c.index) c

def quotedRest (style : QuoteStyle) (closers : List (List Char × Ending)) (start : Nat)
    (hasEscape nonAscii : Bool) (c : Cursor) : EStateM.Result LexError Cursor QuotedBody :=
  match h : c.current with
  | .scalar ch =>
    if style.isSingleLine && isLineTerminator ch then brokenOff style start c
    else
      match hc : closerAt closers c with
      | (some (width, ending), c') =>
        .ok ⟨c.index, ending, hasEscape, nonAscii⟩ (c'.advanceBy width)
      | (none, c') =>
        have hsnd := closerAt_snd closers c
        have hcur : c'.current = .scalar ch := by
          rw [hc] at hsnd
          exact hsnd.1.trans h
        have hrem : c'.remaining = c.remaining := by
          rw [hc] at hsnd
          exact hsnd.2
        have := remaining_skipEscape_lt hcur
        have := Cursor.remaining_advance_lt hcur
        if ch = '\\' && style.hasEscapes then
          quotedRest style closers start true nonAscii (skipEscape c')
        else quotedRest style closers start hasEscape (nonAscii || !isAscii ch) c'.advance
  | _ => brokenOff style start c
termination_by c.remaining

theorem quotedRest_def (style : QuoteStyle) (closers : List (List Char × Ending)) (start : Nat)
    (hasEscape nonAscii : Bool) (c : Cursor) :
    quotedRest style closers start hasEscape nonAscii c =
      match c.current with
      | .scalar ch =>
        if style.isSingleLine && isLineTerminator ch then brokenOff style start c
        else
          match (closerAt closers c).1 with
          | some (width, ending) =>
            .ok ⟨c.index, ending, hasEscape, nonAscii⟩ ((closerAt closers c).2.advanceBy width)
          | none =>
            if ch = '\\' && style.hasEscapes then
              quotedRest style closers start true nonAscii (skipEscape (closerAt closers c).2)
            else
              quotedRest style closers start hasEscape (nonAscii || !isAscii ch)
                (closerAt closers c).2.advance
      | _ => brokenOff style start c := by
  rw [quotedRest.eq_def]
  split
  · rename_i ch hcur
    simp only [hcur]
    split
    · rfl
    · split <;> rename_i hcloser <;> rw [hcloser]
  · rename_i hnot
    split
    · rename_i ch hcur
      exact absurd hcur (hnot ch)
    · rfl

/-- The body of a literal that begins at `start`, and its text if that needs no decoding. -/
def quotedBody (style : QuoteStyle) (start : Nat) : Scanner (QuotedBody × Option String) := do
  let contentStart ← index
  let body ← quotedRest style style.closers start false false
  let content := (Span.mk contentStart body.stop).slice (← get).bytes
  return (body, if body.hasEscape || body.nonAscii then none else String.fromUTF8? content)

/-- A token for a quoted literal. A character has a value only if it is one byte long. -/
def quotedLexeme (kind : TokenKind) (flags : TokenFlags) (text? : Option String) : Lexeme :=
  match text?.filter fun text => kind != .charLiteral || text.utf8ByteSize == 1 with
  | some text => { kind, flags, value? := some (.text text) }
  | none => { kind, flags := flags.union { deferred := true } }

/-- A string, a character or a template, from its opening delimiter of `width` code points. -/
def quoted (style : QuoteStyle) (width : Nat) (kinds : Ending → TokenKind) (flags : TokenFlags) :
    Scanner Lexeme := do
  let start ← index
  skip width
  let (body, text?) ← quotedBody style start
  return quotedLexeme (kinds body.ending) flags text?

def string : Scanner Lexeme := quoted .string 1 (fun _ => .stringLiteral) {}

def tripleString : Scanner Lexeme :=
  quoted .tripleString 3 (fun _ => .stringLiteral) { multiLine := true }

def character : Scanner Lexeme := quoted .character 1 (fun _ => .charLiteral) {}

def templateKind : Ending → TokenKind
  | .closed => .stringLiteral
  | .interpolation => .templateHead

/-- A template up to its end or its first interpolation. -/
def template : Scanner Lexeme := quoted .template 1 templateKind { multiLine := true }

/-- Steps over number signs and counts them. -/
def countHashes (c : Cursor) : Nat × Cursor :=
  match h : c.current with
  | .scalar ch =>
    have := Cursor.remaining_advance_lt h
    if ch = '#' then
      let (n, c) := countHashes c.advance
      (n + 1, c)
    else (0, c)
  | _ => (0, c)
termination_by c.remaining

theorem countHashes_def (c : Cursor) :
    countHashes c =
      if c.current = .scalar '#' then ((countHashes c.advance).1 + 1, (countHashes c.advance).2)
      else (0, c) := by
  rw [countHashes]
  split
  · rename_i ch hcur
    simp only [hcur, CodePoint.scalar.injEq]
  · rename_i hnot
    rw [if_neg (hnot '#')]

/-- A raw string: number signs, a quote, and everything up to a quote with as many signs. -/
def rawString : Scanner Lexeme := do
  let start ← index
  skip 1
  let hashes ← modifyGet countHashes
  if (← current).is '"' then
    skip 1
    let (_, text?) ← quotedBody (.raw hashes) start
    return quotedLexeme .stringLiteral { raw := true } text?
  else fail (.between .invalidRawStringStart start (← index))

def continuationKind : Ending → TokenKind
  | .closed => .templateTail
  | .interpolation => .templateMiddle

/-- A template from the brace at `start`, which ends an interpolation and lies behind the cursor, up
to the end of the template or its next interpolation. -/
def templateContinuation (start : Nat) (flags : TokenFlags) : Scanner Lexeme := do
  let (body, text?) ← quotedBody .template start
  return quotedLexeme (continuationKind body.ending) flags text?

/-! ## Literals are stepped over -/

theorem cursorAfter_quotedRest_le (style : QuoteStyle) (closers : List (List Char × Ending))
    (start : Nat) (hasEscape nonAscii : Bool) (c : Cursor) :
    (cursorAfter (quotedRest style closers start hasEscape nonAscii c)).remaining ≤
      c.remaining := by
  fun_induction quotedRest style closers start hasEscape nonAscii c with
  | case1 => exact Nat.le_refl _
  | case2 hasEscape nonAscii c ch h hline width ending c' hc =>
    have hrem := (closerAt_snd closers c).2
    rw [hc] at hrem
    exact Nat.le_trans (c'.remaining_advanceBy_le width) (Nat.le_of_eq hrem)
  | case3 => omega
  | case4 => omega
  | case5 => exact Nat.le_refl _

theorem forward_quotedBody (style : QuoteStyle) (start : Nat) :
    Forward (quotedBody style start) := by
  unfold quotedBody
  apply forward_index.bind
  intro _
  apply Forward.bind (cursorAfter_quotedRest_le style _ start false false)
  intro _
  exact (forward_get id).bind fun _ => forward_pure _

theorem consumes_quoted {c : Cursor} {ch : Char} (h : c.current = .scalar ch) (style : QuoteStyle)
    (width : Nat) (kinds : Ending → TokenKind) (flags : TokenFlags) :
    Consumes (quoted style (width + 1) kinds flags) c := by
  unfold quoted
  refine Consumes.of_bind (a := c.index) (d := c) rfl (Nat.le_refl _) ?_
  apply (consumes_skip h width).bind
  intro _
  exact (forward_quotedBody style _).bind fun _ => forward_pure _

theorem consumes_string {c : Cursor} {ch : Char} (h : c.current = .scalar ch) :
    Consumes string c :=
  consumes_quoted h .string 0 (fun _ => .stringLiteral) {}

theorem consumes_tripleString {c : Cursor} {ch : Char} (h : c.current = .scalar ch) :
    Consumes tripleString c :=
  consumes_quoted h .tripleString 2 (fun _ => .stringLiteral) { multiLine := true }

theorem consumes_character {c : Cursor} {ch : Char} (h : c.current = .scalar ch) :
    Consumes character c :=
  consumes_quoted h .character 0 (fun _ => .charLiteral) {}

theorem consumes_template {c : Cursor} {ch : Char} (h : c.current = .scalar ch) :
    Consumes template c :=
  consumes_quoted h .template 0 templateKind { multiLine := true }

theorem remaining_countHashes_le (c : Cursor) : (countHashes c).2.remaining ≤ c.remaining := by
  fun_induction countHashes c with
  | case1 => simp_all; omega
  | case2 => exact Nat.le_refl _
  | case3 => exact Nat.le_refl _

theorem consumes_rawString {c : Cursor} {ch : Char} (h : c.current = .scalar ch) :
    Consumes rawString c := by
  unfold rawString
  refine Consumes.of_bind (a := c.index) (d := c) rfl (Nat.le_refl _) ?_
  apply (consumes_skip h 0).bind
  intro _
  refine Forward.bind (fun c => remaining_countHashes_le c) fun hashes => ?_
  apply forward_current.bind
  intro _
  split
  · apply (forward_skip 1).bind
    intro _
    exact (forward_quotedBody _ _).bind fun _ => forward_pure _
  · exact forward_index.bind fun _ => forward_fail _

theorem forward_templateContinuation (start : Nat) (flags : TokenFlags) :
    Forward (templateContinuation start flags) := by
  unfold templateContinuation
  exact (forward_quotedBody _ _).bind fun _ => forward_pure _

end Scanner

end Lexis
