import Lexis.Lexer.Scanner

/-!
# Scanning comments

A line comment ends before the line terminator. A block comment ends with the closing delimiter
that matches its opening, comments inside it being counted.
-/

namespace Lexis.Scanner

open CharClass

/-- The pragmas in the text from `start` up to `stop`, if that is text. -/
def pragmasBetween (c : Cursor) (start stop : Nat) : Pragmas :=
  match String.fromUTF8? ((Span.mk start stop).slice c.bytes) with
  | some text => .ofComment start text.toList
  | none => {}

def lineComment (doc : Bool) : Scanner Lexeme := do
  let start ← index
  skip 2
  move Cursor.skipToLineEnd
  return {
    kind := .lineComment
    flags := { docComment := doc }
    pragmas := pragmasBetween (← get) start (← index) }

/-- The rest of a block comment inside which `depth` further comments are open. Returns whether a
line terminator has been passed. -/
def blockCommentRest (depth : Nat) (crossed : Bool) (c : Cursor) :
    EStateM.Result LexError Cursor Bool :=
  match h : c.current with
  | .scalar ch =>
    match hp : c.peek 1 with
    | (next, c') =>
      have hlt : ∀ steps, (c'.advanceBy (steps + 1)).remaining < c.remaining := by
        intro steps
        have := Cursor.remaining_skip_peek_lt h 1 steps
        rwa [hp] at this
      have : (c'.advanceBy 1).remaining < c.remaining := hlt 0
      have : (c'.advanceBy 2).remaining < c.remaining := hlt 1
      if ch = '/' && next.is '*' then blockCommentRest (depth + 1) crossed (c'.advanceBy 2)
      else if ch = '*' && next.is '/' then
        match depth with
        | 0 => .ok crossed (c'.advanceBy 2)
        | depth + 1 => blockCommentRest depth crossed (c'.advanceBy 2)
      else blockCommentRest depth (crossed || isLineTerminator ch) (c'.advanceBy 1)
  | _ => .error (.atOffset .unterminatedBlockComment c.index) c
termination_by c.remaining

theorem blockCommentRest_def (depth : Nat) (crossed : Bool) (c : Cursor) :
    blockCommentRest depth crossed c =
      match c.current with
      | .scalar ch =>
        if ch = '/' && (c.peek 1).1.is '*' then
          blockCommentRest (depth + 1) crossed ((c.peek 1).2.advanceBy 2)
        else if ch = '*' && (c.peek 1).1.is '/' then
          match depth with
          | 0 => .ok crossed ((c.peek 1).2.advanceBy 2)
          | depth + 1 => blockCommentRest depth crossed ((c.peek 1).2.advanceBy 2)
        else blockCommentRest depth (crossed || isLineTerminator ch) ((c.peek 1).2.advanceBy 1)
      | _ => .error (.atOffset .unterminatedBlockComment c.index) c := by
  rw [blockCommentRest.eq_def]
  split
  · rename_i ch hcur
    simp only [hcur]
  · rename_i hnot
    split
    · rename_i ch hcur
      exact absurd hcur (hnot ch)
    · rfl

/-- A comment up to the delimiter that closes it. Pragmas are read from the text before that. -/
def blockComment (legal : Bool) : Scanner Lexeme := do
  let start ← index
  skip 2
  let crossed ← blockCommentRest 0 false
  return {
    kind := .blockComment
    flags := { legalComment := legal }
    pragmas := pragmasBetween (← get) start ((← index) - 2)
    crossesLine := crossed }

def hashbang : Scanner Lexeme := do
  skip 1
  move Cursor.skipToLineEnd
  return { kind := .hashbang }

/-! ## Comments are stepped over -/

theorem cursorAfter_blockCommentRest_le (depth : Nat) (crossed : Bool) (c : Cursor) :
    (cursorAfter (blockCommentRest depth crossed c)).remaining ≤ c.remaining := by
  fun_induction blockCommentRest depth crossed c with
  | case1 => omega
  | case2 => exact Nat.le_of_lt ‹_›
  | case3 => omega
  | case4 => omega
  | case5 => exact Nat.le_refl _

theorem consumes_lineComment {c : Cursor} {ch : Char} (h : c.current = .scalar ch) (doc : Bool) :
    Consumes (lineComment doc) c := by
  unfold lineComment
  refine Consumes.of_bind (a := c.index) (d := c) rfl (Nat.le_refl _) ?_
  apply (consumes_skip h 1).bind
  intro _
  apply (forward_move Cursor.remaining_skipToLineEnd_le).bind
  intro _
  exact (forward_get id).bind fun _ => forward_index.bind fun _ => forward_pure _

theorem consumes_blockComment {c : Cursor} {ch : Char} (h : c.current = .scalar ch)
    (legal : Bool) : Consumes (blockComment legal) c := by
  unfold blockComment
  refine Consumes.of_bind (a := c.index) (d := c) rfl (Nat.le_refl _) ?_
  apply (consumes_skip h 1).bind
  intro _
  apply Forward.bind (cursorAfter_blockCommentRest_le 0 false)
  intro crossed
  exact (forward_get id).bind fun _ => forward_index.bind fun _ => forward_pure _

theorem consumes_hashbang {c : Cursor} {ch : Char} (h : c.current = .scalar ch) :
    Consumes hashbang c := by
  unfold hashbang
  apply (consumes_skip h 0).bind
  intro _
  exact (forward_move Cursor.remaining_skipToLineEnd_le).bind fun _ => forward_pure _

end Lexis.Scanner
