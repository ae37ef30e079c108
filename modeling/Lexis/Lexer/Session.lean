import Lexis.Lexer.Interpolation

/-!
# Sessions

A lexer together with what its user keeps between calls: the last token returned and the open
interpolations. Every call has a reply and a session after it.
-/

namespace Lexis

structure Session where
  lexer : Lexer
  lastToken? : Option Token := none
  interpolations : Interpolations := {}

inductive Reply where
  | token (t : Token)
  | stopped (stop : Stop)
  /-- There is no token, or no token to go on from. -/
  | nothing
  deriving DecidableEq, Inhabited

/-- How the next token is asked for. -/
inductive Pull where
  /-- As it is. -/
  | plain
  /-- With interpolations being followed. -/
  | following
  deriving DecidableEq, Inhabited

namespace Session

/-- The reply to a call that has led to a result, and the session after it. -/
def answer (s : Session) (result : Except Stop Token) (l : Lexer) : Reply × Session :=
  match result with
  | .ok t => (.token t, { s with lexer := l, lastToken? := some t })
  | .error stop => (.stopped stop, { s with lexer := l })

def pull (s : Session) : Pull → Reply × Session
  | .plain => s.answer (s.lexer.next.1.mapError .fatal) s.lexer.next.2
  | .following =>
    let (result, l, interpolations) := s.lexer.nextFollowing s.interpolations
    { s with interpolations }.answer result l

/-- Asks for the next token before the end of the input. -/
def pull? (s : Session) : Reply × Session :=
  match s.lexer.next? with
  | (some result, l) => s.answer (result.mapError .fatal) l
  | (none, l) => (.nothing, { s with lexer := l })

/-- Goes on with a template at the given token, or else at the last one. -/
def rescan (s : Session) (brace? : Option Token) : Reply × Session :=
  match brace?.or s.lastToken? with
  | some brace =>
    let (result, l) := s.lexer.rescan brace
    s.answer result l
  | none => (.nothing, s)

theorem remaining_pull_lt {s s' : Session} {how : Pull} {t : Token}
    (h : s.pull how = (.token t, s')) (hfinished : s'.lexer.isFinished = false) :
    s'.lexer.cursor.remaining < s.lexer.cursor.remaining := by
  cases how with
  | plain =>
    unfold pull at h
    cases hnext : s.lexer.next with
    | mk result l =>
      rw [hnext] at h
      cases result with
      | error e =>
        replace h : (Reply.stopped (.fatal e), { s with lexer := l }) = (.token t, s') := h
        cases h
      | ok t' =>
        replace h : (Reply.token t', { s with lexer := l, lastToken? := some t' }) =
          (.token t, s') := h
        cases h
        exact Lexer.remaining_next_lt hnext hfinished
  | following =>
    unfold pull answer at h
    cases hnext : s.lexer.nextFollowing s.interpolations with
    | mk result rest =>
      obtain ⟨l, interpolations⟩ := rest
      cases result with
      | error e => simp [hnext] at h
      | ok t' =>
        simp only [hnext, Prod.mk.injEq] at h
        rw [← h.2] at hfinished ⊢
        exact Lexer.remaining_nextFollowing_lt hnext hfinished

/-- Asks for tokens until the lexer is finished, at least once. Returns every reply with the session
after it. -/
def pullAll (s : Session) (how : Pull) : List (Reply × Session) :=
  match h : s.pull how with
  | (.token t, s') =>
    if hfinished : s'.lexer.isFinished then [(.token t, s')]
    else
      have := remaining_pull_lt h (by simpa using hfinished)
      (.token t, s') :: s'.pullAll how
  | (reply, s') => [(reply, s')]
termination_by s.lexer.cursor.remaining

end Session

end Lexis
