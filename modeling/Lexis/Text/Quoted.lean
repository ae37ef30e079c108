import Lexis.CharClass.Ranges
import Lexis.CharClass.CombiningMark
import Lexis.CharClass.Unprintable

/-!
# Quoted text

How a character or a text is shown inside a message: between quotes, with everything escaped that
would not be seen or would end the quotes.
-/

namespace Lexis.Text

open CharClass

/-- The digits of `n` in lower-case hexadecimal, without padding. -/
def hexDigits (n : Nat) : String := String.ofList (Nat.toDigits 16 n)

/-- The escape that names a code point by its number. -/
def unicodeEscape (c : Char) : String := "\\u\x7b" ++ hexDigits c.toNat ++ "\x7d"

/-- One character as it stands between quotes of the given kind. -/
def escapeIn (quote c : Char) : String :=
  if c = '\x00' then "\\0"
  else if c = '\t' then "\\t"
  else if c = '\r' then "\\r"
  else if c = '\n' then "\\n"
  else if c = '\\' then "\\\\"
  else if c = quote then String.ofList ['\\', quote]
  else if inRanges combiningMark c || inRanges unprintable c then unicodeEscape c
  else c.toString

def quoteChar (c : Char) : String := "'" ++ escapeIn '\'' c ++ "'"

def quoteString (s : String) : String :=
  "\"" ++ String.join (s.toList.map (escapeIn '"')) ++ "\""

end Lexis.Text
