/-!
# Token flags

Facts about a token that its kind does not tell, with their packing into the bits of a number.
-/

namespace Lexis

structure TokenFlags where
  /-- A line terminator stands between the previous token and this one. -/
  newlineBefore : Bool := false
  /-- A line comment that begins with exactly three slashes. -/
  docComment : Bool := false
  /-- A block comment that begins with an exclamation mark. -/
  legalComment : Bool := false
  /-- A quoted literal whose text is decoded on demand. -/
  deferred : Bool := false
  /-- A quoted literal that may run over several lines. -/
  multiLine : Bool := false
  /-- A string in which backslashes stand for themselves. -/
  raw : Bool := false
  deriving DecidableEq, Inhabited

namespace TokenFlags

/-- The facts that hold in either. -/
def union (a b : TokenFlags) : TokenFlags where
  newlineBefore := a.newlineBefore || b.newlineBefore
  docComment := a.docComment || b.docComment
  legalComment := a.legalComment || b.legalComment
  deferred := a.deferred || b.deferred
  multiLine := a.multiLine || b.multiLine
  raw := a.raw || b.raw

/-- The flags as bits, from the lowest on. -/
def toBits (flags : TokenFlags) : Nat :=
  flags.newlineBefore.toNat + 2 * flags.docComment.toNat + 4 * flags.legalComment.toNat +
    8 * flags.deferred.toNat + 16 * flags.multiLine.toNat + 32 * flags.raw.toNat

/-- The flags with the given bits; further bits are dropped. -/
def ofBits (bits : Nat) : TokenFlags where
  newlineBefore := bits.testBit 0
  docComment := bits.testBit 1
  legalComment := bits.testBit 2
  deferred := bits.testBit 3
  multiLine := bits.testBit 4
  raw := bits.testBit 5

theorem ofBits_toBits (flags : TokenFlags) : ofBits flags.toBits = flags := by
  obtain ⟨a, b, c, d, e, f⟩ := flags
  cases a <;> cases b <;> cases c <;> cases d <;> cases e <;> cases f <;> rfl

end TokenFlags

end Lexis
