/-!
# Operators

The punctuation of the language. `Operator.spelling` gives each operator its text and
`Operator.recognize?` finds the operator that a text begins with.
-/

namespace Lexis

inductive Operator where
  | ampersand
  | ampersandAmpersand
  | asterisk
  | asteriskAsterisk
  | at
  | bar
  | barBar
  | closeBrace
  | closeBracket
  | closeParen
  | colon
  | comma
  | dot
  | dotDot
  | dotDotDot
  | equals
  | equalsEquals
  | fatArrow
  | exclamation
  | notEquals
  | greater
  | greaterEquals
  | less
  | lessEquals
  | minus
  | arrow
  | openBrace
  | openBracket
  | openParen
  | percent
  | plus
  | question
  | questionDot
  | questionQuestion
  | semicolon
  | slash
  | tildeSlash
  deriving DecidableEq, Inhabited

namespace Operator

def spelling : Operator → String
  | .ampersand => "&"
  | .ampersandAmpersand => "&&"
  | .asterisk => "*"
  | .asteriskAsterisk => "**"
  | .at => "@"
  | .bar => "|"
  | .barBar => "||"
  | .closeBrace => "\x7d"
  | .closeBracket => "]"
  | .closeParen => ")"
  | .colon => ":"
  | .comma => ","
  | .dot => "."
  | .dotDot => ".."
  | .dotDotDot => "..."
  | .equals => "="
  | .equalsEquals => "=="
  | .fatArrow => "=>"
  | .exclamation => "!"
  | .notEquals => "!="
  | .greater => ">"
  | .greaterEquals => ">="
  | .less => "<"
  | .lessEquals => "<="
  | .minus => "-"
  | .arrow => "->"
  | .openBrace => "\x7b"
  | .openBracket => "["
  | .openParen => "("
  | .percent => "%"
  | .plus => "+"
  | .question => "?"
  | .questionDot => "?."
  | .questionQuestion => "??"
  | .semicolon => ";"
  | .slash => "/"
  | .tildeSlash => "~/"

/-- The operator at the beginning of a text. It is the longest one there, except that a question
mark before a dot and a digit stands alone: the dot belongs to the number. -/
def recognize? : List Char → Option Operator
  | '&' :: '&' :: _ => some .ampersandAmpersand
  | '&' :: _ => some .ampersand
  | '*' :: '*' :: _ => some .asteriskAsterisk
  | '*' :: _ => some .asterisk
  | '@' :: _ => some .at
  | '|' :: '|' :: _ => some .barBar
  | '|' :: _ => some .bar
  | '\x7b' :: _ => some .openBrace
  | '\x7d' :: _ => some .closeBrace
  | '[' :: _ => some .openBracket
  | ']' :: _ => some .closeBracket
  | '(' :: _ => some .openParen
  | ')' :: _ => some .closeParen
  | ':' :: _ => some .colon
  | ',' :: _ => some .comma
  | ';' :: _ => some .semicolon
  | '%' :: _ => some .percent
  | '+' :: _ => some .plus
  | '.' :: '.' :: '.' :: _ => some .dotDotDot
  | '.' :: '.' :: _ => some .dotDot
  | '.' :: _ => some .dot
  | '=' :: '=' :: _ => some .equalsEquals
  | '=' :: '>' :: _ => some .fatArrow
  | '=' :: _ => some .equals
  | '!' :: '=' :: _ => some .notEquals
  | '!' :: _ => some .exclamation
  | '>' :: '=' :: _ => some .greaterEquals
  | '>' :: _ => some .greater
  | '<' :: '=' :: _ => some .lessEquals
  | '<' :: _ => some .less
  | '-' :: '>' :: _ => some .arrow
  | '-' :: _ => some .minus
  | '?' :: '?' :: _ => some .questionQuestion
  | '?' :: '.' :: rest => if rest.head?.any Char.isDigit then some .question else some .questionDot
  | '?' :: _ => some .question
  | '/' :: _ => some .slash
  | '~' :: '/' :: _ => some .tildeSlash
  | _ => none

end Operator

end Lexis
