import Lexis.Lexer
import Lexis.Number.Decimal

/-!
# Converting decimals from text

A lexer that leaves decimal floating-point numbers to a conversion of their text. The conversion may
refuse a text; the number is malformed then, and the scan is over.
-/

namespace Lexis

/-- A conversion of a decimal without separators to the bits of a number. -/
abbrev Conversion := List Char → Option UInt64

namespace Scanner

/-- The value of a numeral with the given text, unless its text is refused. -/
def convertedValue? (convert : Conversion) (n : Numeral) (text : ByteArray) :
    Option LiteralValue :=
  if n.isFloat then
    ((String.fromUTF8? text).bind fun text => convert (withoutSeparators text.toList)).map .float
  else some n.value

/-- The token for a numeral whose text begins at `start`. -/
def convertedLexeme (convert : Conversion) (start : Nat) (n : Numeral) : Scanner Lexeme := do
  match convertedValue? convert n (← bytesFrom start) with
  | some value => numberLexeme value
  | none => fail (.between .malformedNumber start (← index))

theorem convertedLexeme_of_some {convert : Conversion} {start : Nat} {n : Numeral} {c : Cursor}
    {value : LiteralValue}
    (h : convertedValue? convert n ((Span.mk start c.index).slice c.bytes) = some value) :
    convertedLexeme convert start n c = numberLexeme value c := by
  have hbytes : bytesFrom start c = .ok ((Span.mk start c.index).slice c.bytes) c := rfl
  simp only [convertedLexeme, Bind.bind, EStateM.bind, hbytes, h]

/-- A number without a marker, a floating-point number being converted from its text. -/
def decimalNumberBy (convert : Conversion) : Scanner Lexeme := do
  let start ← index
  let whole ← whole
  let fraction? ← fraction
  let exponent? ← exponent
  convertedLexeme convert start (.decimal whole fraction? exponent?)

theorem forward_convertedLexeme (convert : Conversion) (start : Nat) (n : Numeral) :
    Forward (convertedLexeme convert start n) := by
  unfold convertedLexeme
  apply (forward_bytesFrom start).bind
  intro text
  split
  · exact forward_numberLexeme _
  · exact forward_index.bind fun _ => forward_fail _

theorem consumes_decimalNumberBy (convert : Conversion) {c : Cursor} {ch : Char}
    (h : c.current = .scalar ch) (hstart : ch.isDigit = true ∨
      ch = '.' ∧ ((c.peek 1).1.toChar?.any Char.isDigit) = true) :
    Consumes (decimalNumberBy convert) c := by
  unfold decimalNumberBy
  refine Consumes.of_bind (a := c.index) (d := c) rfl (Nat.le_refl _) ?_
  exact consumes_parts (fun _ _ _ => forward_convertedLexeme convert c.index _) h hstart

end Scanner

namespace Opening

def scannerBy (convert : Conversion) : Opening → Scanner Lexeme
  | .number => Scanner.decimalNumberBy convert
  | opening => opening.scanner

theorem scannerBy_of_ne (convert : Conversion) {opening : Opening} (h : opening ≠ .number) :
    opening.scannerBy convert = opening.scanner := by
  cases opening with
  | number => exact absurd rfl h
  | _ => rfl

theorem consumes_scannerBy (convert : Conversion) {c : Cursor} {ch : Char} {ahead : List Char}
    (hcur : c.current = .scalar ch) (hnext : ahead.head? = (c.peek 1).1.toChar?) :
    Scanner.Consumes ((Opening.of ch ahead).scannerBy convert) c := by
  by_cases h : Opening.of ch ahead = .number
  · rw [h]
    exact Scanner.consumes_decimalNumberBy convert hcur (hnext ▸ of_eq_number h)
  · rw [scannerBy_of_ne convert h]
    exact consumes_scanner hcur hnext

end Opening

namespace Lexer

def scanAtBy (convert : Conversion) (c : Cursor) (ch : Char) :
    EStateM.Result LexError Cursor Lexeme :=
  (Opening.of ch (c.lookahead 3).1).scannerBy convert (c.lookahead 3).2

theorem remaining_scanAtBy_lt {convert : Conversion} {c c' : Cursor} {ch : Char} {lexeme : Lexeme}
    (h : c.current = .scalar ch) (hscan : scanAtBy convert c ch = .ok lexeme c') :
    c'.remaining < c.remaining := by
  rw [← c.remaining_lookahead 3]
  refine Opening.consumes_scannerBy convert ((c.current_lookahead 3).trans h) ?_ lexeme c' hscan
  rw [c.lookahead_fst, Cursor.peek_fst _ (Cursor.not_overflows _ (by decide)),
    c.upcoming_lookahead, CodePoint.toChar?_ofChar?]
  cases c.upcoming <;> rfl

/-- The next token, decimals being converted from their text. -/
def scanBy (convert : Conversion) (l : Lexer) : Except LexError Token × Lexer :=
  match hskip : skipWhitespace l.newlineBefore l.cursor with
  | (newline, c) =>
    match hcur : c.current with
    | .scalar ch =>
      match hscan : scanAtBy convert c ch with
      | .error e c' =>
        (.error e, { l with cursor := c', newlineBefore := newline }.abort c.index e)
      | .ok lexeme c' =>
        have : c'.remaining < l.cursor.remaining := by
          have hle := remaining_skipWhitespace_le l.newlineBefore l.cursor
          rw [hskip] at hle
          exact Nat.lt_of_lt_of_le (remaining_scanAtBy_lt hcur hscan) hle
        if lexeme.kind.isComment && !l.config.keepComments then
          scanBy convert { l.accept lexeme c' with newlineBefore := newline || lexeme.crossesLine }
        else
          (.ok (tokenOf lexeme c.index newline c'),
            { l.accept lexeme c' with newlineBefore := false })
    | _ =>
      (.ok (tokenOf { kind := .endOfInput } c.index newline c),
        { l with cursor := c, newlineBefore := false, phase := .finished })
termination_by l.cursor.remaining

def firstBy (convert : Conversion) (l : Lexer) : Except LexError Token × Lexer :=
  let hashbang := l.cursor.startsWith ['#', '!']
  let l := { l with cursor := hashbang.2, phase := .scanning }
  if hashbang.1 then l.scanHashbang else l.scanBy convert

def nextBy (convert : Conversion) (l : Lexer) : Except LexError Token × Lexer :=
  match l.phase with
  | .finished => (.ok l.endToken, l)
  | .scanning => l.scanBy convert
  | .start => l.firstBy convert

end Lexer

end Lexis
