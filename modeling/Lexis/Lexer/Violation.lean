import Lexis.Cursor.CodePoint

/-!
# Broken promises

What a strict lexer finds wrong with its use or with itself, as opposed to what can be wrong with a
source.
-/

namespace Lexis

inductive Violation where
  /-- A template is to go on at a token that is no closing brace. -/
  | rescanOfOther
  /-- A template is to go on at a brace behind which other tokens have been read. -/
  | rescanOfEarlier
  /-- A scanner begins in front of something that its tokens do not begin with. -/
  | unexpectedCurrent (expected : Char) (offset : Nat) (found : CodePoint)
  deriving DecidableEq, Inhabited

def Violation.message : Violation → String
  | .rescanOfOther => "rescan of a non-brace token"
  | .rescanOfEarlier => "rescan of a brace that is not the last token"
  | .unexpectedCurrent expected offset found =>
    s!"expected {Text.quoteChar expected} at byte {offset}, found {found.quoted}"

end Lexis
