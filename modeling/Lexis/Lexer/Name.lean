import Lexis.Lexer.Scanner

/-!
# Scanning names and operators
-/

namespace Lexis.Scanner

open CharClass

/-- The rest of an identifier: an ASCII run, and everything from the first other code point on. -/
def identifierRest : Scanner Unit := do
  move (·.skipAsciiWhile isAsciiIdentContinue)
  if (← current).toChar?.any (!isAscii ·) then move (·.skipWhile isIdentContinue)

/-- The keyword that stands between `start` and the current code point. -/
def keywordFrom? (start : Nat) : Scanner (Option Keyword) := do
  return (String.fromUTF8? (← bytesFrom start)).bind Keyword.ofSpelling?

def name : Scanner Lexeme := do
  let start ← index
  skip 1
  identifierRest
  match ← keywordFrom? start with
  | some k => return { kind := .keyword k }
  | none => return { kind := .identifier }

/-- A name behind a prefix by which a keyword can serve as a name. -/
def escapedName : Scanner Lexeme := do
  skip 2
  let start ← index
  skip 1
  identifierRest
  match ← keywordFrom? start with
  | some _ => return { kind := .escapedKeyword }
  | none => return { kind := .identifier }

def operator (op : Operator) : Scanner Lexeme := do
  skip op.spelling.length
  return { kind := .operator op }

/-- A code point that begins no token. -/
def unexpected (c : Char) : Scanner Lexeme := do
  let start ← index
  skip 1
  return { kind := .syntaxError, problem? := some ⟨⟨start, ← index⟩, .unexpectedCharacter c⟩ }

/-! ## Names and operators are stepped over -/

theorem forward_identifierRest : Forward identifierRest := by
  unfold identifierRest
  apply (forward_move (Cursor.remaining_skipAsciiWhile_le _)).bind
  intro _
  apply forward_current.bind
  intro _
  split
  · exact forward_move (Cursor.remaining_skipWhile_le _)
  · exact forward_pure _

theorem forward_keywordFrom? (start : Nat) : Forward (keywordFrom? start) :=
  (forward_bytesFrom start).bind fun _ => forward_pure _

theorem consumes_name {c : Cursor} {ch : Char} (h : c.current = .scalar ch) : Consumes name c := by
  unfold name
  refine Consumes.of_bind (a := c.index) (d := c) rfl (Nat.le_refl _) ?_
  apply (consumes_skip h 0).bind
  intro _
  apply forward_identifierRest.bind
  intro _
  apply (forward_keywordFrom? _).bind
  intro k?
  split <;> exact forward_pure _

theorem consumes_escapedName {c : Cursor} {ch : Char} (h : c.current = .scalar ch) :
    Consumes escapedName c := by
  unfold escapedName
  apply (consumes_skip h 1).bind
  intro _
  apply forward_index.bind
  intro _
  apply (forward_skip 1).bind
  intro _
  apply forward_identifierRest.bind
  intro _
  apply (forward_keywordFrom? _).bind
  intro k?
  split <;> exact forward_pure _

theorem consumes_operator {c : Cursor} {ch : Char} (h : c.current = .scalar ch) (op : Operator) :
    Consumes (operator op) c := by
  unfold operator
  obtain ⟨n, hn⟩ : ∃ n, op.spelling.length = n + 1 := by cases op <;> exact ⟨_, rfl⟩
  rw [hn]
  exact (consumes_skip h n).bind fun _ => forward_pure _

theorem consumes_unexpected {c : Cursor} {ch : Char} (h : c.current = .scalar ch) (d : Char) :
    Consumes (unexpected d) c := by
  unfold unexpected
  refine Consumes.of_bind (a := c.index) (d := c) rfl (Nat.le_refl _) ?_
  exact (consumes_skip h 0).bind fun _ => forward_index.bind fun _ => forward_pure _

end Lexis.Scanner
