import Lexis.CharClass
import Lexis.Number.Numeral

/-!
# Numbers in decimal text

The conversion of an unsigned decimal such as `1.5e-3` to the bits of the nearest number. It knows
no separators, so that these have to be left out before.
-/

namespace Lexis

open CharClass

def withoutSeparators (text : List Char) : List Char := text.filter (· ≠ '_')

namespace Binary64

/-- The decimal digits that a text begins with, and what is behind them. -/
def leadingDigits (text : List Char) : List Nat × List Char :=
  ((text.takeWhile Char.isDigit).filterMap (digitOf? 10), text.dropWhile Char.isDigit)

/-- The digits behind a dot, if the text begins with one. -/
def leadingFraction (text : List Char) : List Nat × List Char :=
  match text with
  | '.' :: rest => leadingDigits rest
  | _ => ([], text)

/-- Whether a text begins with a minus sign, and what is behind that or a plus sign. -/
def leadingSign (text : List Char) : Bool × List Char :=
  match text with
  | '-' :: rest => (true, rest)
  | '+' :: rest => (false, rest)
  | _ => (false, text)

/-- The exponent that is all of a text, which is zero if there is none. -/
def exponentOfText? (text : List Char) : Option Int :=
  match text with
  | [] => some 0
  | letter :: rest =>
    let (negative, rest) := leadingSign rest
    let (digits, rest) := leadingDigits rest
    if (letter = 'e' ∨ letter = 'E') ∧ digits ≠ [] ∧ rest = [] then
      some (Exponent.toInt ⟨negative, digits⟩)
    else none

/-- The bits of the number nearest to an unsigned decimal. -/
def ofText? (text : List Char) : Option UInt64 :=
  let (whole, rest) := leadingDigits text
  let (fraction, rest) := leadingFraction rest
  if whole ++ fraction = [] then none
  else (exponentOfText? rest).map fun e => ofDecimal (whole ++ fraction) (e - fraction.length)

end Binary64

end Lexis
