import Lexis.Lexer.Checked
import Lexis.Proofs.Lexer.Steps

/-!
# The checks of a strict lexer hold

An opening is recognised by the code point that its scanner takes for granted, so that no check
before a scanner fails, whatever state the lexer is in: a call that checks itself comes to what the
call without checks comes to (`nextChecked_eq`).
-/

namespace Lexis

namespace Opening

/-- No more is taken for granted than that the code point is the one recognised. -/
def Grants (ch : Char) (opening : Opening) : Prop :=
  ∀ expected, opening.expected? = some expected → ch = expected

theorem grants_of (ch : Char) (ahead : List Char) : (Opening.of ch ahead).Grants ch := by
  have hfound := found_of ch ahead
  generalize Opening.of ch ahead = opening at hfound
  intro expected hexpected
  cases hfound <;> cases hexpected <;> rfl

end Opening

namespace Lexer

variable {l : Lexer} {c : Cursor} {ch expected : Char}

theorem entryViolation?_of_is {expected? : Option Char} (l : Lexer)
    (h : ∀ expected, expected? = some expected → c.current = .scalar expected) :
    l.entryViolation? expected? c = none := by
  cases expected? with
  | none => rfl
  | some expected => simp [entryViolation?, h expected rfl, CodePoint.is]

theorem entryViolation?_scanAt (l : Lexer) (hcur : c.current = .scalar ch) :
    l.entryViolation? (Opening.of ch (c.lookahead 3).1).expected? (c.lookahead 3).2 = none := by
  apply l.entryViolation?_of_is
  intro expected hexpected
  rw [c.current_lookahead 3, hcur, Opening.grants_of ch _ expected hexpected]

theorem scanChecked_eq (l : Lexer) : l.scanChecked = (l.scan.1.mapError .fatal, l.scan.2) := by
  fun_induction scanChecked l with
  | case1 l newline c hskip ch hcur v hviolation =>
    rw [entryViolation?_scanAt l hcur] at hviolation
    cases hviolation
  | case2 l newline c hskip ch hcur _ e c' hscan =>
    rw [scan_of_error hskip hcur hscan]
    rfl
  | case3 l newline c hskip ch hcur _ lexeme c' hscan hlt hcomment ih =>
    rw [scan_of_comment hskip hcur hscan hcomment]
    exact ih
  | case4 l newline c hskip ch hcur _ lexeme c' hscan hlt hcomment =>
    rw [scan_of_token hskip hcur hscan (eq_false_of_ne_true hcomment)]
    rfl
  | case5 l newline c hskip hnot =>
    rw [scan_of_not_scalar hskip hnot]
    rfl

theorem firstChecked_eq (l : Lexer) :
    l.firstChecked = (l.first.1.mapError .fatal, l.first.2) := by
  unfold firstChecked first
  simp only
  split
  · rename_i hscript
    rw [scanHashbangChecked, entryViolation?_of_is]
    rintro _ ⟨⟩
    exact Cursor.current_of_startsWith hscript
  · exact scanChecked_eq _

/-- A call that checks itself finds nothing wrong, and comes to the same as one that does not. -/
theorem nextChecked_eq (l : Lexer) : l.nextChecked = (l.next.1.mapError .fatal, l.next.2) := by
  unfold nextChecked next
  cases l.phase with
  | finished => rfl
  | scanning => exact scanChecked_eq l
  | start => exact firstChecked_eq l

theorem nextChecked?_eq (l : Lexer) :
    l.nextChecked? = (l.next?.1.map (·.mapError .fatal), l.next?.2) := by
  unfold nextChecked? next?
  split
  · rfl
  · rw [nextChecked_eq]
    cases l.next with
    | mk result l' =>
      cases result with
      | error e => rfl
      | ok t =>
        show (if t.kind == .endOfInput then none else some (Except.ok t), l') =
          (Option.map _ (if t.kind == .endOfInput then none else some (Except.ok t)), l')
        split <;> rfl

end Lexer

end Lexis
