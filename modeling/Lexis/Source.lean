import Lexis.Text.Quoted

/-!
# Source files

One file's worth of bytes, as handed to the lexer. Offsets into a source fit into 32 bits.
-/

namespace Lexis

structure Source where
  /-- The path shown to users in diagnostics. -/
  path : String
  contents : ByteArray
  /-- The position of this file within the current compilation. -/
  ordinal : Nat
  size_lt : contents.size < UInt32.size

namespace Source

/-- The source with the given contents, unless they are too long. -/
def ofBytes? (path : String) (contents : ByteArray) (ordinal : Nat) : Option Source :=
  if h : contents.size < UInt32.size then some ⟨path, contents, ordinal, h⟩ else none

def size (s : Source) : Nat := s.contents.size

def isEmpty (s : Source) : Bool := s.contents.isEmpty

def summary (s : Source) : String :=
  "Source \x7b path: " ++ Text.quoteString s.path ++ ", ordinal: " ++ toString s.ordinal ++
    ", len: " ++ toString s.size ++ " \x7d"

end Source

end Lexis
