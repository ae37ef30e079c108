import Lexis.Diagnostic
import Lexis.Text.Quoted

/-!
# What can be wrong with a source

A `LexError` ends the scan of a file. A `Problem` concerns one token and lets the scan go on. Both
are reported as diagnostics.
-/

namespace Lexis

inductive LexErrorKind where
  | unterminatedString
  | unterminatedChar
  | unterminatedTemplate
  | unterminatedRawString
  /-- Number signs that open a raw string are not followed by a quote. -/
  | invalidRawStringStart
  | unterminatedBlockComment
  /-- A number starts with a zero and goes on with a digit or a separator. -/
  | leadingZero
  /-- No digits follow the marker of a base. -/
  | missingDigits (marker : String)
  | invalidDigit (digit : Char) (radix : Nat)
  /-- No digits follow the sign of an exponent. -/
  | missingExponentDigits
  /-- A group of digits begins with a separator. -/
  | leadingUnderscore
  | consecutiveUnderscores
  | trailingUnderscore
  /-- A number without a value. -/
  | malformedNumber
  deriving DecidableEq, Inhabited

namespace LexErrorKind

def message : LexErrorKind → String
  | .unterminatedString => "Unterminated string literal"
  | .unterminatedChar => "Unterminated character literal"
  | .unterminatedTemplate => "Unterminated template literal"
  | .unterminatedRawString => "Unterminated raw string literal"
  | .invalidRawStringStart => "Expected '\"' to start raw string literal"
  | .unterminatedBlockComment => "Expected \"*/\" to terminate block comment"
  | .leadingZero => "Leading zero in number literal; use \"0o\" for octal"
  | .missingDigits marker => "Expected digits after \"" ++ marker ++ "\""
  | .invalidDigit digit radix =>
    "Invalid digit " ++ Text.quoteChar digit ++ " in base-" ++ toString radix ++ " literal"
  | .missingExponentDigits => "Expected digits in exponent"
  | .leadingUnderscore => "Number literal digit group cannot start with \"_\""
  | .consecutiveUnderscores => "Number literal cannot contain consecutive \"_\""
  | .trailingUnderscore => "Number literal cannot end with \"_\""
  | .malformedNumber => "Malformed number literal"

def code : LexErrorKind → ErrorCode
  | .unterminatedString => .unterminatedString
  | .unterminatedChar => .unterminatedCharacter
  | .unterminatedTemplate => .unterminatedTemplate
  | .unterminatedRawString | .invalidRawStringStart => .unterminatedRawString
  | .unterminatedBlockComment => .unterminatedBlockComment
  | .leadingUnderscore | .consecutiveUnderscores | .trailingUnderscore => .misplacedSeparator
  | .leadingZero | .missingDigits _ | .invalidDigit _ _ | .missingExponentDigits
  | .malformedNumber => .malformedNumber

def name : LexErrorKind → String
  | .unterminatedString => "UnterminatedString"
  | .unterminatedChar => "UnterminatedChar"
  | .unterminatedTemplate => "UnterminatedTemplate"
  | .unterminatedRawString => "UnterminatedRawString"
  | .invalidRawStringStart => "InvalidRawStringStart"
  | .unterminatedBlockComment => "UnterminatedBlockComment"
  | .leadingZero => "LeadingZero"
  | .missingDigits _ => "MissingDigits"
  | .invalidDigit _ _ => "InvalidDigit"
  | .missingExponentDigits => "MissingExponentDigits"
  | .leadingUnderscore => "LeadingUnderscore"
  | .consecutiveUnderscores => "ConsecutiveUnderscores"
  | .trailingUnderscore => "TrailingUnderscore"
  | .malformedNumber => "MalformedNumber"

/-- The name of the kind with its particulars. -/
def summary : LexErrorKind → String
  | .missingDigits marker => "MissingDigits \x7b prefix: " ++ Text.quoteString marker ++ " \x7d"
  | .invalidDigit digit radix =>
    "InvalidDigit \x7b digit: " ++ Text.quoteChar digit ++ ", radix: " ++ toString radix ++ " \x7d"
  | kind => kind.name

/-- The span that an error of this kind designates: a place where something is missing, a single
separator, or all from `start` to `stop`. -/
def designated (kind : LexErrorKind) (start stop : Nat) : Span :=
  match kind with
  | .unterminatedBlockComment | .missingDigits _ | .missingExponentDigits => .point start
  | .leadingUnderscore | .consecutiveUnderscores | .trailingUnderscore => .ofLength start 1
  | _ => ⟨start, stop⟩

end LexErrorKind

structure LexError where
  span : Span
  kind : LexErrorKind
  deriving DecidableEq, Inhabited

namespace LexError

/-- The error of a kind between two offsets, with the span that the kind designates. -/
def between (kind : LexErrorKind) (start stop : Nat) : LexError :=
  ⟨kind.designated start stop, kind⟩

def atOffset (kind : LexErrorKind) (offset : Nat) : LexError := between kind offset offset

def message (e : LexError) : String := e.kind.message

def code (e : LexError) : ErrorCode := e.kind.code

def summary (e : LexError) : String :=
  "LexError \x7b span: " ++ toString e.span ++ ", kind: " ++ e.kind.summary ++ " \x7d"

/-- The diagnostic that reports an error in a token that begins at `start`. An unterminated comment
is reported at the end of the input, with a note on its opening. -/
def diagnostic (e : LexError) (start : Nat) : Diagnostic where
  code := e.code
  severity := .error
  span := e.span
  message := e.message
  notes := match e.kind with
    | .unterminatedBlockComment =>
      [{ message := "The block comment starts here", span? := some (.ofLength start 2) }]
    | _ => []

end LexError

/-- What makes a token no token of the language. -/
inductive ProblemKind where
  | unexpectedCharacter (c : Char)
  /-- A name follows a number without a gap. -/
  | identifierAfterNumber (name : String)
  deriving DecidableEq, Inhabited

/-- A problem that costs one token. -/
structure Problem where
  span : Span
  kind : ProblemKind
  deriving DecidableEq, Inhabited

/-- A character as it is shown where it is not expected: by its number, if it stands before the
space or beyond ASCII. -/
def showUnexpected (c : Char) : String :=
  if c.toNat < 0x20 then
    "\\x" ++ String.ofList (((Nat.toDigits 16 c.toNat).leftpad 2 '0').map Char.toUpper)
  else if 0x80 ≤ c.toNat then Text.unicodeEscape c
  else c.toString

namespace ProblemKind

def message : ProblemKind → String
  | .unexpectedCharacter c => "Syntax error \"" ++ showUnexpected c ++ "\""
  | .identifierAfterNumber name => "Unexpected " ++ Text.quoteString name ++ " after number literal"

def code : ProblemKind → ErrorCode
  | .unexpectedCharacter _ => .unexpectedCharacter
  | .identifierAfterNumber _ => .identifierAfterNumber

end ProblemKind

def Problem.diagnostic (p : Problem) : Diagnostic where
  code := p.kind.code
  severity := .error
  span := p.span
  message := p.kind.message

end Lexis
