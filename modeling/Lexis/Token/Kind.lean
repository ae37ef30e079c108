import Lexis.Token.Keyword
import Lexis.Token.Operator

/-!
# Token kinds

The closed set of categories that a piece of source can fall into.
-/

namespace Lexis

inductive TokenKind where
  /-- The end of the input, returned for ever once it is reached. -/
  | endOfInput
  /-- Input that is no token; a diagnostic tells what is wrong with it. -/
  | syntaxError
  /-- `#!...` at the beginning of a file. -/
  | hashbang
  /-- `// ...` -/
  | lineComment
  /-- `/* ... */`, possibly nested. -/
  | blockComment
  | intLiteral
  | floatLiteral
  /-- A character in single quotes. -/
  | charLiteral
  /-- A string in any of its forms, or a template without interpolation. -/
  | stringLiteral
  /-- A template from its opening backtick to the brace of its first interpolation. -/
  | templateHead
  /-- A template from the end of one interpolation to the beginning of the next. -/
  | templateMiddle
  /-- A template from the end of its last interpolation to its closing backtick. -/
  | templateTail
  | operator (op : Operator)
  | identifier
  /-- A keyword spelled so that it can serve as a name: `r#fn`. -/
  | escapedKeyword
  | keyword (k : Keyword)
  deriving DecidableEq, Inhabited

namespace TokenKind

/-- The name of the kind in messages; what is always spelled alike stands between backticks. -/
def displayName : TokenKind → String
  | .endOfInput => "end of file"
  | .syntaxError => "syntax error"
  | .hashbang => "hashbang"
  | .lineComment => "line comment"
  | .blockComment => "block comment"
  | .intLiteral => "integer literal"
  | .floatLiteral => "float literal"
  | .charLiteral => "character literal"
  | .stringLiteral => "string literal"
  | .templateHead => "template head"
  | .templateMiddle => "template middle"
  | .templateTail => "template tail"
  | .operator op => "`" ++ op.spelling ++ "`"
  | .identifier => "identifier"
  | .escapedKeyword => "escaped keyword"
  | .keyword k => "`" ++ k.spelling ++ "`"

instance : ToString TokenKind := ⟨displayName⟩

def isKeyword : TokenKind → Bool
  | .keyword _ => true
  | _ => false

def isComment : TokenKind → Bool
  | .lineComment | .blockComment => true
  | _ => false

/-- Whether the text of the token lies between delimiters and may have to be decoded. -/
def isQuoted : TokenKind → Bool
  | .charLiteral | .stringLiteral | .templateHead | .templateMiddle | .templateTail => true
  | _ => false

/-- Whether the token stands for a value. -/
def isLiteral : TokenKind → Bool
  | .intLiteral | .floatLiteral => true
  | kind => kind.isQuoted

end TokenKind

end Lexis
