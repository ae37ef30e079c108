import Lexis.Lexer.Comment

/-!
# Counting open comments in a word

A block comment that counts the comments that are open, itself included, in a word of 32 bits. The
steps of the counter are checked: a counter that leaves its range is a fault, and no count.
-/

namespace Lexis.Scanner

open CharClass

/-- How a counter leaves the range of its word. -/
inductive CounterFault where
  | overflow
  | underflow
  deriving DecidableEq, Inhabited

def countUp (n : UInt32) : Except CounterFault UInt32 :=
  if n.toNat + 1 < UInt32.size then .ok (n + 1) else .error .overflow

def countDown (n : UInt32) : Except CounterFault UInt32 :=
  if n = 0 then .error .underflow else .ok (n - 1)

/-- The rest of a block comment, `opened` comments being open. -/
def blockCommentRestCounted (opened : UInt32) (crossed : Bool) (c : Cursor) :
    Except CounterFault (EStateM.Result LexError Cursor Bool) :=
  match h : c.current with
  | .scalar ch =>
    match hp : c.peek 1 with
    | (next, c') =>
      have hlt : ∀ steps, (c'.advanceBy (steps + 1)).remaining < c.remaining := by
        intro steps
        have := Cursor.remaining_skip_peek_lt h 1 steps
        rwa [hp] at this
      have : (c'.advanceBy 1).remaining < c.remaining := hlt 0
      have : (c'.advanceBy 2).remaining < c.remaining := hlt 1
      if ch = '/' && next.is '*' then
        match countUp opened with
        | .error fault => .error fault
        | .ok opened => blockCommentRestCounted opened crossed (c'.advanceBy 2)
      else if ch = '*' && next.is '/' then
        match countDown opened with
        | .error fault => .error fault
        | .ok opened =>
          if opened = 0 then .ok (.ok crossed (c'.advanceBy 2))
          else blockCommentRestCounted opened crossed (c'.advanceBy 2)
      else blockCommentRestCounted opened (crossed || isLineTerminator ch) (c'.advanceBy 1)
  | _ => .ok (.error (.atOffset .unterminatedBlockComment c.index) c)
termination_by c.remaining

/-- A block comment, its counter starting at one. -/
def blockCommentCounted (legal : Bool) (c : Cursor) :
    Except CounterFault (EStateM.Result LexError Cursor Lexeme) :=
  (blockCommentRestCounted 1 false (c.advanceBy 2)).map fun
    | .ok crossed c' => .ok {
        kind := .blockComment
        flags := { legalComment := legal }
        pragmas := pragmasBetween c' c.index (c'.index - 2)
        crossesLine := crossed } c'
    | .error e c' => .error e c'

end Lexis.Scanner
