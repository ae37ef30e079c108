/-!
# Lexer configuration
-/

namespace Lexis

structure LexerConfig where
  /-- Check what callers promise, and refuse to go on if it does not hold. -/
  strict : Bool := false
  /-- The distance up to which code points ahead are kept in a cache. -/
  lookaheadCapacity : Nat := 4
  /-- Return comments as tokens instead of skipping them. -/
  keepComments : Bool := true
  /-- The number of errors kept for a file, without bound if zero. -/
  errorLimit : Nat := 10
  deriving DecidableEq, Inhabited

/-- Sets the capacity of the lookahead cache, which is at least one. -/
def LexerConfig.withLookahead (config : LexerConfig) (capacity : Nat) : LexerConfig :=
  { config with lookaheadCapacity := max capacity 1 }

end Lexis
