import Lexis.Proofs.Number.Value
import Lexis.Proofs.Scanner.Kinds

/-!
# The shapes of lexemes

However a token begins, its scanner makes one of a few things of it: a comment, a quoted literal, a
number or a word, or what is wrong with it (`Lexeme.Shape`). What is true of these is true of every
lexeme (`Opening.yields_shape`).
-/

namespace Lexis

/-- How a lexeme is put together. -/
inductive Lexeme.Shape : Lexeme → Prop
  | lineComment (doc : Bool) (pragmas : Pragmas) :
      Shape { kind := .lineComment, flags := { docComment := doc }, pragmas }
  | blockComment (legal : Bool) (pragmas : Pragmas) (crossesLine : Bool) :
      Shape { kind := .blockComment, flags := { legalComment := legal }, pragmas, crossesLine }
  | quoted {kind : TokenKind} (style : QuoteStyle) (hquoted : kind.isQuoted = true)
      (text? : Option String) : Shape (Scanner.quotedLexeme kind style.flags text?)
  | number {value : LiteralValue} (hvalue : ∀ text, value ≠ .text text) :
      Shape { kind := Scanner.numberKind value, value? := some value }
  | word {kind : TokenKind} (hliteral : kind.isLiteral = false)
      (hcomment : kind.isComment = false) : Shape { kind }
  | problem (problem : Problem) : Shape { kind := .syntaxError, problem? := some problem }

namespace Scanner

open Lexeme (Shape)

theorem shape_quoted (style : QuoteStyle) (width : Nat) :
    Yields (quoted style width style.kind style.flags) Shape := by
  unfold quoted
  exact .bind fun _ => .bind fun _ => .bind fun body =>
    yields_pure (.quoted style (style.isQuoted_kind body.1.ending) _)

theorem shape_rawString : Yields rawString Shape := by
  unfold rawString
  refine .bind fun _ => .bind fun _ => .bind fun hashes => .bind fun _ => ?_
  split
  · exact .bind fun _ => .bind fun _ => yields_pure (.quoted (.raw hashes) rfl _)
  · exact .bind fun _ => yields_fail _

theorem shape_name : Yields name Shape := by
  unfold name
  refine .bind fun _ => .bind fun _ => .bind fun _ => .bind fun k? => ?_
  cases k? <;> exact yields_pure (.word rfl rfl)

theorem shape_escapedName : Yields escapedName Shape := by
  unfold escapedName
  refine .bind fun _ => .bind fun _ => .bind fun _ => .bind fun _ => .bind fun k? => ?_
  cases k? <;> exact yields_pure (.word rfl rfl)

theorem shape_numberLexeme (n : Numeral) : Yields (numberLexeme n.value) Shape := by
  unfold numberLexeme
  refine .bind fun _ => ?_
  split
  · exact .bind fun _ => .bind fun _ => .bind fun _ => .bind fun _ => .bind fun _ =>
      yields_pure (.problem _)
  · exact yields_pure (.number n.value_ne_text)

theorem shape_basedNumber (base : Base) : Yields (basedNumber base) Shape := by
  unfold basedNumber
  refine .bind fun _ => .bind fun _ => .bind fun digits => ?_
  split
  · exact yields_fail _
  · exact shape_numberLexeme _

end Scanner

open Scanner in
theorem Opening.yields_shape (opening : Opening) : Yields opening.scanner Lexeme.Shape := by
  cases hstyle : opening.style? with
  | some style =>
    rw [opening.scanner_of_style? hstyle]
    exact shape_quoted style _
  | none =>
    cases opening with
    | lineComment doc =>
      exact .bind fun _ => .bind fun _ => .bind fun _ => .bind fun _ => .bind fun _ =>
        yields_pure (.lineComment doc _)
    | blockComment legal =>
      exact .bind fun _ => .bind fun _ => .bind fun crossed => .bind fun _ => .bind fun _ =>
        yields_pure (.blockComment legal _ crossed)
    | string | tripleString | character | template => cases hstyle
    | rawString => exact shape_rawString
    | escapedName => exact shape_escapedName
    | number => exact .bind fun _ => .bind fun _ => .bind fun _ => shape_numberLexeme _
    | basedNumber base => exact shape_basedNumber base
    | leadingZero => exact .bind fun _ => yields_fail _
    | operator op => exact .bind fun _ => yields_pure (.word rfl rfl)
    | name => exact shape_name
    | unexpected d => exact .bind fun _ => .bind fun _ => .bind fun _ => yields_pure (.problem _)

theorem Lexer.shape_of_scanAt {c c' : Cursor} {ch : Char} {lexeme : Lexeme}
    (hscan : scanAt c ch = .ok lexeme c') : lexeme.Shape := by
  have hshape := Opening.yields_shape (Opening.of ch (c.lookahead 3).1)
  exact (hshape (c.lookahead 3).2).of_ok hscan

end Lexis
