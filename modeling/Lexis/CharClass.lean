import Lexis.CharClass.Ranges
import Lexis.CharClass.XidStart
import Lexis.CharClass.XidContinue

/-!
# Character classes

The classes of code points that the lexical grammar distinguishes. Identifiers follow the Unicode
properties XID_Start and XID_Continue, with the low line as an additional start.
-/

namespace Lexis.CharClass

def isAsciiIdentStart (c : Char) : Bool := c.isAlpha || c == '_'

def isAsciiIdentContinue (c : Char) : Bool := c.isAlphanum || c == '_'

def isAscii (c : Char) : Bool := c.toNat < 0x80

def isIdentStart (c : Char) : Bool :=
  if isAscii c then isAsciiIdentStart c else inRanges xidStart c

/-- Code points that may stand in an identifier after its first. -/
def isIdentContinue (c : Char) : Bool :=
  if isAscii c then isAsciiIdentContinue c else inRanges xidContinue c

/-- Code points that end a line. A carriage return and the line feed after it are two of them. -/
def isLineTerminator (c : Char) : Bool :=
  c == '\n' || c == '\r' || c == '\u2028' || c == '\u2029'

/-- Code points skipped between tokens: the blanks, the byte order mark and the line terminators. -/
def isWhitespace (c : Char) : Bool :=
  let n := c.toNat
  (0x09 ≤ n && n ≤ 0x0D) || n == 0x20 || n == 0xA0 || n == 0x1680 || (0x2000 ≤ n && n ≤ 0x200A) ||
    n == 0x2028 || n == 0x2029 || n == 0x202F || n == 0x205F || n == 0x3000 || n == 0xFEFF

def digitValue? (c : Char) : Option Nat :=
  if c.isDigit then some (c.toNat - '0'.toNat)
  else if 'a' ≤ c ∧ c ≤ 'f' then some (c.toNat - 'a'.toNat + 10)
  else if 'A' ≤ c ∧ c ≤ 'F' then some (c.toNat - 'A'.toNat + 10)
  else none

/-- The value of a digit of the given base, which is at most sixteen. -/
def digitOf? (radix : Nat) (c : Char) : Option Nat :=
  (digitValue? c).filter (· < radix)

end Lexis.CharClass
