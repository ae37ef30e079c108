import Lexis.Span
import Lexis.Token.Flags
import Lexis.Token.Kind
import Lexis.Token.Literal
import Lexis.Utf8.Lossy

/-!
# Tokens

A token is a classified slice of a source. It does not hold its text, which `Token.text` reads from
the source again.
-/

namespace Lexis

structure Token where
  kind : TokenKind
  offset : Nat
  len : Nat
  flags : TokenFlags := {}
  /-- The value of a literal, unless it is a quoted one that is decoded on demand. -/
  value? : Option LiteralValue := none
  deriving DecidableEq, Inhabited

namespace Token

def stop (t : Token) : Nat := t.offset + t.len

def span (t : Token) : Span := .ofLength t.offset t.len

def text (t : Token) (source : ByteArray) : String := Utf8.lossy (t.span.slice source)

end Token

end Lexis
