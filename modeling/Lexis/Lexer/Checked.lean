import Lexis.Lexer

/-!
# Calls that check themselves

The scanners that step over an opening without looking at it take for granted what they begin with.
A strict lexer makes sure of that whenever such a scanner begins, and a call in which it is not so
ends with a violation.
-/

namespace Lexis

/-- What the scanner takes for granted to be in front of it. -/
def Opening.expected? : Opening → Option Char
  | .lineComment _ | .blockComment _ => some '/'
  | .string | .tripleString => some '"'
  | .character => some '\''
  | .template => some '\x60'
  | .rawString | .escapedName => some 'r'
  | .basedNumber _ => some '0'
  | .number | .leadingZero | .operator _ | .name | .unexpected _ => none

namespace Lexer

/-- What a strict lexer finds wrong with a scanner that begins at the cursor. -/
def entryViolation? (l : Lexer) (expected? : Option Char) (c : Cursor) : Option Violation :=
  match expected? with
  | some expected =>
    if l.config.strict && !c.current.is expected then
      some (.unexpectedCurrent expected c.index c.current)
    else none
  | none => none

/-- A scan with a check before each scanner, those of unwanted comments included. -/
def scanChecked (l : Lexer) : Except Stop Token × Lexer :=
  match hskip : skipWhitespace l.newlineBefore l.cursor with
  | (newline, c) =>
    match hcur : c.current with
    | .scalar ch =>
      match l.entryViolation? (Opening.of ch (c.lookahead 3).1).expected? (c.lookahead 3).2 with
      | some v => (.error (.violation v), { l with cursor := c, newlineBefore := newline })
      | none =>
        match hscan : scanAt c ch with
        | .error e c' =>
          (.error (.fatal e), { l with cursor := c', newlineBefore := newline }.abort c.index e)
        | .ok lexeme c' =>
          have : c'.remaining < l.cursor.remaining := by
            have hle := remaining_skipWhitespace_le l.newlineBefore l.cursor
            rw [hskip] at hle
            exact Nat.lt_of_lt_of_le (remaining_scanAt_lt hcur hscan) hle
          if lexeme.kind.isComment && !l.config.keepComments then
            scanChecked
              { l.accept lexeme c' with newlineBefore := newline || lexeme.crossesLine }
          else
            (.ok (tokenOf lexeme c.index newline c'),
              { l.accept lexeme c' with newlineBefore := false })
    | _ =>
      (.ok (tokenOf { kind := .endOfInput } c.index newline c),
        { l with cursor := c, newlineBefore := false, phase := .finished })
termination_by l.cursor.remaining

def scanHashbangChecked (l : Lexer) : Except Stop Token × Lexer :=
  match l.entryViolation? (some '#') l.cursor with
  | some v => (.error (.violation v), l)
  | none => (l.scanHashbang.1.mapError .fatal, l.scanHashbang.2)

def firstChecked (l : Lexer) : Except Stop Token × Lexer :=
  let hashbang := l.cursor.startsWith ['#', '!']
  let l := { l with cursor := hashbang.2, phase := .scanning }
  if hashbang.1 then l.scanHashbangChecked else l.scanChecked

def nextChecked (l : Lexer) : Except Stop Token × Lexer :=
  match l.phase with
  | .finished => (.ok l.endToken, l)
  | .scanning => l.scanChecked
  | .start => l.firstChecked

def nextChecked? (l : Lexer) : Option (Except Stop Token) × Lexer :=
  if l.isFinished then (none, l)
  else
    match l.nextChecked with
    | (.ok t, l) => (if t.kind == .endOfInput then none else some (.ok t), l)
    | (.error stop, l) => (some (.error stop), l)

end Lexer

end Lexis
