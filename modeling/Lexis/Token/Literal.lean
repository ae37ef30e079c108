import Lexis.Number.Binary64

/-!
# Values of literals

A floating-point value is kept as its bits, so that values can be compared.
-/

namespace Lexis

inductive LiteralValue where
  | int (value : UInt64)
  /-- A binary floating-point number of 64 bits. -/
  | float (bits : UInt64)
  /-- The text of a quoted literal, without its delimiters. -/
  | text (value : String)
  deriving DecidableEq, Inhabited

namespace LiteralValue

/-- The bits of the value of a number, rounded where it is an integer too large to be exact. -/
def floatBits? : LiteralValue → Option UInt64
  | .int value => some (Binary64.ofNat value.toNat)
  | .float bits => some bits
  | .text _ => none

def text? : LiteralValue → Option String
  | .text value => some value
  | _ => none

end LiteralValue

end Lexis
