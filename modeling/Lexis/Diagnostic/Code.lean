/-!
# Error codes

The classes of problems that the lexer reports, with the stable identifiers under which they are
documented. The first digit of an identifier is the phase of the compiler; the lexer is phase zero.
-/

namespace Lexis

inductive ErrorCode where
  | unterminatedString
  | unexpectedCharacter
  | malformedNumber
  | unterminatedCharacter
  | invalidEscape
  | unterminatedTemplate
  | unterminatedBlockComment
  | misplacedSeparator
  | identifierAfterNumber
  | unterminatedRawString
  deriving DecidableEq, Inhabited

namespace ErrorCode

def identifier : ErrorCode → String
  | .unterminatedString => "E0001"
  | .unexpectedCharacter => "E0002"
  | .malformedNumber => "E0003"
  | .unterminatedCharacter => "E0004"
  | .invalidEscape => "E0005"
  | .unterminatedTemplate => "E0006"
  | .unterminatedBlockComment => "E0007"
  | .misplacedSeparator => "E0008"
  | .identifierAfterNumber => "E0009"
  | .unterminatedRawString => "E0010"

instance : ToString ErrorCode := ⟨identifier⟩

/-- A summary of one line. -/
def description : ErrorCode → String
  | .unterminatedString => "unterminated string literal"
  | .unexpectedCharacter => "unexpected character"
  | .malformedNumber => "malformed number literal"
  | .unterminatedCharacter => "unterminated character literal"
  | .invalidEscape => "invalid escape sequence"
  | .unterminatedTemplate => "unterminated template literal"
  | .unterminatedBlockComment => "unterminated block comment"
  | .misplacedSeparator => "misplaced digit separator"
  | .identifierAfterNumber => "identifier directly after number literal"
  | .unterminatedRawString => "unterminated raw string literal"

def all : List ErrorCode :=
  [.unterminatedString, .unexpectedCharacter, .malformedNumber, .unterminatedCharacter,
    .invalidEscape, .unterminatedTemplate, .unterminatedBlockComment, .misplacedSeparator,
    .identifierAfterNumber, .unterminatedRawString]

def ofIdentifier? (s : String) : Option ErrorCode := all.find? (·.identifier == s)

theorem ofIdentifier?_identifier (code : ErrorCode) :
    ofIdentifier? code.identifier = some code := by
  cases code <;> rfl

end ErrorCode

end Lexis
