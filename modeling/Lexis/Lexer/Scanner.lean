import Lexis.Cursor.Runs
import Lexis.Lexer.Error
import Lexis.Pragma
import Lexis.Token

/-!
# Scanners

A scanner recognises one piece of a source: it moves a cursor and returns a result or fails, and
the cursor keeps its place when it fails. No scanner goes back: `Forward` says so, and the lemmas
about it let the loops of the lexer end.
-/

namespace Lexis

abbrev Scanner (α : Type) := EStateM LexError Cursor α

/-- The cursor behind a piece that has been scanned, successfully or not. -/
def cursorAfter {α : Type} : EStateM.Result LexError Cursor α → Cursor
  | .ok _ c => c
  | .error _ c => c

namespace Scanner

def current : Scanner CodePoint := do return (← get).current

def index : Scanner Nat := do return (← get).index

def move (f : Cursor → Cursor) : Scanner Unit := modify f

def skip (n : Nat) : Scanner Unit := move (·.advanceBy n)

def peek (n : Nat) : Scanner CodePoint := modifyGet (·.peek n)

/-- The bytes from `start` up to the current code point. -/
def bytesFrom (start : Nat) : Scanner ByteArray := do
  let c ← get
  return (Span.mk start c.index).slice c.bytes

def fail {α : Type} (e : LexError) : Scanner α := throw e

/-! ## No scanner goes back -/

/-- The scanner ends no further from the end of the input than it began. -/
def Forward {α : Type} (s : Scanner α) : Prop := ∀ c, (cursorAfter (s c)).remaining ≤ c.remaining

/-- From this cursor, the scanner gets closer to the end of the input unless it fails. -/
def Consumes {α : Type} (s : Scanner α) (c : Cursor) : Prop :=
  ∀ a c', s c = .ok a c' → c'.remaining < c.remaining

theorem forward_pure {α : Type} (a : α) : Forward (pure a : Scanner α) := fun _ => Nat.le_refl _

theorem forward_fail {α : Type} (e : LexError) : Forward (fail e : Scanner α) :=
  fun _ => Nat.le_refl _

theorem Forward.bind {α β : Type} {s : Scanner α} {k : α → Scanner β} (hs : Forward s)
    (hk : ∀ a, Forward (k a)) : Forward (s >>= k) := by
  intro c
  have hfirst := hs c
  simp only [Bind.bind, EStateM.bind]
  cases h : s c with
  | ok a c' =>
    rw [h] at hfirst
    exact Nat.le_trans (hk a c') hfirst
  | error e c' =>
    rw [h] at hfirst
    exact hfirst

/-- It is enough that the first part of a scanner gets closer to the end. -/
theorem Consumes.bind {α β : Type} {s : Scanner α} {k : α → Scanner β} {c : Cursor}
    (hs : Consumes s c) (hk : ∀ a, Forward (k a)) : Consumes (s >>= k) c := by
  intro b c₂ h
  simp only [Bind.bind, EStateM.bind] at h
  cases hsc : s c with
  | ok a c₁ =>
    rw [hsc] at h
    have hle := hk a c₁
    simp only at h
    rw [h] at hle
    exact Nat.lt_of_le_of_lt hle (hs a c₁ hsc)
  | error e c₁ =>
    rw [hsc] at h
    cases h

/-- It is enough that what follows a part that stays in place gets closer to the end. -/
theorem Consumes.of_bind {α β : Type} {s : Scanner α} {k : α → Scanner β} {c d : Cursor} {a : α}
    (hs : s c = .ok a d) (hle : d.remaining ≤ c.remaining) (hk : Consumes (k a) d) :
    Consumes (s >>= k) c := by
  intro b c₂ h
  simp only [Bind.bind, EStateM.bind, hs] at h
  exact Nat.lt_of_lt_of_le (hk b c₂ h) hle

theorem forward_get {α : Type} (f : Cursor → α) :
    Forward (do return f (← get) : Scanner α) := fun _ => Nat.le_refl _

theorem forward_current : Forward current := forward_get _

theorem forward_index : Forward index := forward_get _

theorem forward_bytesFrom (start : Nat) : Forward (bytesFrom start) := forward_get _

theorem forward_move {f : Cursor → Cursor} (h : ∀ c, (f c).remaining ≤ c.remaining) :
    Forward (move f) := h

theorem forward_skip (n : Nat) : Forward (skip n) :=
  forward_move fun c => c.remaining_advanceBy_le n

theorem forward_peek (n : Nat) : Forward (peek n) := fun c => Nat.le_of_eq (c.remaining_peek n)

theorem consumes_skip {c : Cursor} {ch : Char} (h : c.current = .scalar ch) (n : Nat) :
    Consumes (skip (n + 1)) c := by
  intro _ c' heq
  have hskip : skip (n + 1) c = .ok () (c.advance.advanceBy n) := rfl
  rw [hskip] at heq
  cases heq
  exact Nat.lt_of_le_of_lt (c.advance.remaining_advanceBy_le n) (Cursor.remaining_advance_lt h)

end Scanner

/-- What a scanner makes of a piece of source. -/
structure Lexeme where
  kind : TokenKind
  flags : TokenFlags := {}
  value? : Option LiteralValue := none
  /-- What is wrong with the piece, if it is no token. -/
  problem? : Option Problem := none
  /-- The pragmas in a comment. -/
  pragmas : Pragmas := {}
  /-- Whether a comment contains a line terminator. -/
  crossesLine : Bool := false

end Lexis
