import Lexis.Lexer.Session
import Lexis.Proofs.Lexer.Checked
import Lexis.Proofs.Lexer.Twins

/-!
# Settings that do not show

A caller asks for tokens, one by one or as an iterator, and lets templates go on at closing braces.
How far the lexer caches what is ahead of it, and whether it is strict, changes nothing that the
caller sees (`seen_ofSource`): twins serve a request alike, and no check fails on the way.
-/

namespace Lexis

namespace Lexer

variable {l m : Lexer} {brace : Token}

/-! ## Runs -/

/-- How a caller asks for a token, and whether a template is to go on if that is a closing
brace. -/
structure Request where
  /-- The end of the input is no token for an iterator. -/
  iterating : Bool
  again : Bool

/-- What a caller sees after a call. -/
structure Sight where
  reply : Reply
  diagnostics : List Diagnostic
  newlines : Nat
  pragmas : Pragmas
  finished : Bool
  deriving DecidableEq

def sight (l : Lexer) (reply : Reply) : Sight :=
  ⟨reply, l.diagnostics.toList, l.cursor.newlines, l.pragmas, l.isFinished⟩

def replyOf : Except Stop Token → Reply
  | .ok t => .token t
  | .error stop => .stopped stop

/-- What a call of a lexer that checks itself is answered with, and the lexer behind it. -/
def ask (l : Lexer) (iterating : Bool) : Reply × Lexer :=
  if iterating then
    match l.nextChecked? with
    | (some result, l) => (replyOf result, l)
    | (none, l) => (.nothing, l)
  else (replyOf l.nextChecked.1, l.nextChecked.2)

/-- What is seen while a request is served, after every call, and the lexer behind it. -/
def serve (l : Lexer) (r : Request) : List Sight × Lexer :=
  match l.ask r.iterating with
  | (.token t, l) =>
    if r.again && t.kind == .operator .closeBrace then
      ([l.sight (.token t), (l.rescan t).2.sight (replyOf (l.rescan t).1)], (l.rescan t).2)
    else ([l.sight (.token t)], l)
  | (reply, l) => ([l.sight reply], l)

/-- What is seen in a run of requests. -/
def seen (l : Lexer) : List Request → List Sight
  | [] => []
  | r :: requests => (l.serve r).1 ++ (l.serve r).2.seen requests

theorem next?_eq (l : Lexer) :
    l.next? = (match l.next.1 with
      | .ok t => if t.kind == .endOfInput then none else some (.ok t)
      | .error e => some (.error e), l.next.2) := by
  unfold next?
  by_cases hphase : l.phase = .finished
  · rw [if_pos ((isFinished_eq l).2 hphase), next_of_finished hphase]
    rfl
  · rw [if_neg (mt (isFinished_eq l).1 hphase)]
    cases l.next with
    | mk result l' => cases result <;> rfl

theorem ask_eq (l : Lexer) (iterating : Bool) :
    l.ask iterating = (match l.next.1 with
      | .ok t => if iterating && t.kind == .endOfInput then .nothing else .token t
      | .error e => .stopped (.fatal e), l.next.2) := by
  cases iterating with
  | false =>
    simp only [ask, nextChecked_eq]
    cases l.next.1 <;> rfl
  | true =>
    simp only [ask, nextChecked?_eq, next?_eq]
    cases l.next.1 with
    | error e => rfl
    | ok t =>
      simp only [Bool.true_and, if_true]
      cases t.kind == .endOfInput <;> rfl

/-- A session replies to a call as its lexer does. -/
theorem pull_eq_ask (s : Session) :
    ((s.pull .plain).1, (s.pull .plain).2.lexer) = s.lexer.ask false := by
  rw [ask_eq]
  simp only [Session.pull, Session.answer]
  cases s.lexer.next.1 <;> rfl

theorem pull?_eq_ask (s : Session) : (s.pull?.1, s.pull?.2.lexer) = s.lexer.ask true := by
  simp only [ask, nextChecked?_eq, Session.pull?]
  cases s.lexer.next? with
  | mk result? l =>
    cases result? with
    | none => rfl
    | some result => cases result <;> rfl

/-! ## The settings do not show -/

theorem Twins.ask (h : Twins l m) (iterating : Bool) :
    SameCall (l.ask iterating) (m.ask iterating) := by
  obtain ⟨hresult, htwins⟩ := h.next
  rw [ask_eq, ask_eq, ← hresult]
  exact ⟨rfl, htwins⟩

theorem Twins.sight_eq (h : Twins l m) (reply : Reply) : l.sight reply = m.sight reply := by
  cases h with
  | intro _ hplain =>
    have hnewlines : l.cursor.newlines = _ := congrArg PlainCursor.newlines hplain
    rw [sight, hnewlines]
    rfl

/-- A lexer between requests: if it is not finished, it is ready for the next one. -/
def Standing (l : Lexer) : Prop := l.phase = .finished ∨ l.Ready

theorem Call.standing {start : Nat} {result : Except Stop Token} {l' : Lexer}
    (h : Call l start result l') : Standing l' := by
  cases h with
  | token hready => exact .inr hready
  | finish hfinished => exact .inl hfinished
  | abort hfinished => exact .inl hfinished

theorem Standing.next (h : Standing l) : Standing l.next.2 := by
  by_cases hphase : l.phase = .finished
  · rw [next_of_finished hphase]
    exact h
  · obtain ⟨start, -, hcall⟩ := next_call (h.resolve_left hphase) hphase
    exact hcall.standing

theorem next_of_ask {iterating : Bool} {t : Token} {l' : Lexer}
    (h : l.ask iterating = (.token t, l')) : l.next = (.ok t, l') := by
  rw [ask_eq] at h
  obtain ⟨hreply, hlexer⟩ := Prod.mk.inj h
  refine Prod.ext ?_ hlexer
  cases hresult : l.next.1 with
  | error e =>
    rw [hresult] at hreply
    cases hreply
  | ok t' =>
    rw [hresult] at hreply
    simp only at hreply
    split at hreply
    · cases hreply
    · rw [Reply.token.inj hreply]

theorem Standing.behindBrace {iterating : Bool} {l' : Lexer} (h : Standing l)
    (hask : l.ask iterating = (.token brace, l')) (hkind : brace.kind = .operator .closeBrace) :
    l'.Ready ∧ l'.phase = .scanning ∧ BehindBrace brace l' := by
  have hnext := next_of_ask hask
  have hphase : l.phase ≠ .finished := by
    intro hfinished
    rw [next_of_finished hfinished] at hnext
    cases hnext
    cases hkind
  exact behindBrace_of_next (h.resolve_left hphase) hphase hnext hkind

theorem Twins.serve (h : Twins l m) (hl : Standing l) (r : Request) :
    SameCall (l.serve r) (m.serve r) := by
  obtain ⟨hreply, htwins⟩ := h.ask r.iterating
  unfold Lexer.serve
  cases hask : l.ask r.iterating with
  | mk reply l' =>
    cases hask' : m.ask r.iterating with
    | mk reply' m' =>
      rw [hask, hask'] at hreply htwins
      obtain rfl : reply = reply' := hreply
      cases reply with
      | token t =>
        simp only [htwins.sight_eq]
        split
        · rename_i hagain
          have hkind := eq_of_beq (Bool.and_eq_true_iff.1 hagain).2
          obtain ⟨-, hphase, hbehind⟩ := Standing.behindBrace hl hask hkind
          obtain ⟨hresult, hafter⟩ := Twins.rescan htwins hphase hbehind
          rw [hafter.sight_eq, hresult]
          exact ⟨rfl, hafter⟩
        · exact ⟨rfl, htwins⟩
      | stopped stop => exact ⟨congrArg (fun s => [s]) (htwins.sight_eq _), htwins⟩
      | nothing => exact ⟨congrArg (fun s => [s]) (htwins.sight_eq _), htwins⟩

/-- Nothing that a caller is told is a violation. -/
def Legal (sights : List Sight) : Prop := ∀ s ∈ sights, ∀ v, s.reply ≠ .stopped (.violation v)

theorem ask_ne_violation (l : Lexer) (iterating : Bool) (v : Violation) :
    (l.ask iterating).1 ≠ .stopped (.violation v) := by
  rw [ask_eq]
  cases l.next.1 with
  | error e => nofun
  | ok t =>
    simp only
    split <;> nofun

theorem Call.ne_violation {start : Nat} {result : Except Stop Token} {l' : Lexer}
    (h : Call l start result l') (v : Violation) : replyOf result ≠ .stopped (.violation v) := by
  cases h <;> nofun

/-- No check fails while a request is served, and the next request may follow. -/
theorem Standing.serve (h : Standing l) (r : Request) :
    Standing (l.serve r).2 ∧ Legal (l.serve r).1 := by
  have hafter : Standing (l.ask r.iterating).2 := by
    rw [ask_eq]
    exact Standing.next h
  have hlegal := l.ask_ne_violation r.iterating
  unfold Lexer.serve
  cases hask : l.ask r.iterating with
  | mk reply l' =>
    rw [hask] at hafter hlegal
    have hfirst : Legal [l'.sight reply] := List.forall_mem_singleton.2 hlegal
    cases reply with
    | token t =>
      simp only
      split
      · rename_i hagain
        have hkind := eq_of_beq (Bool.and_eq_true_iff.1 hagain).2
        obtain ⟨hready, hphase, hbehind⟩ := Standing.behindBrace h hask hkind
        have hcall := hbehind.call hready hphase
        refine ⟨hcall.standing, List.forall_mem_cons.2 ⟨hlegal, ?_⟩⟩
        exact List.forall_mem_singleton.2 hcall.ne_violation
      · exact ⟨hafter, hfirst⟩
    | stopped stop => exact ⟨hafter, hfirst⟩
    | nothing => exact ⟨hafter, hfirst⟩

theorem Twins.seen_eq (h : Twins l m) (hl : Standing l) (requests : List Request) :
    l.seen requests = m.seen requests := by
  induction requests generalizing l m with
  | nil => rfl
  | cons r requests ih =>
    obtain ⟨hsights, hafter⟩ := h.serve hl r
    rw [seen, seen, hsights, ih hafter (Standing.serve hl r).1]

theorem Standing.legal (h : Standing l) (requests : List Request) : Legal (l.seen requests) := by
  induction requests generalizing l with
  | nil => exact List.forall_mem_nil _
  | cons r requests ih =>
    obtain ⟨hafter, hlegal⟩ := Standing.serve h r
    exact List.forall_mem_append.2 ⟨hlegal, ih hafter⟩

theorem twins_ofSource (source : Source) {config config' : LexerConfig}
    (h : config'.keepComments = config.keepComments) :
    Twins (Lexer.ofSource source config) (Lexer.ofSource source config') := by
  refine .intro h (Cursor.plain_advance_eq ?_)
  rw [Cursor.plain_ofBytes, Cursor.plain_ofBytes]
  rfl

end Lexer

/-- However far a lexer caches what is ahead, and whether it is strict or not, its user sees the
same after every call of a run, and no check of a strict lexer fails. -/
theorem seen_ofSource (source : Source) (config : LexerConfig) (strict : Bool) (capacity : Nat)
    (requests : List Lexer.Request) :
    (Lexer.ofSource source { config with strict, lookaheadCapacity := capacity }).seen requests =
        (Lexer.ofSource source config).seen requests ∧
      ∀ s ∈ (Lexer.ofSource source config).seen requests,
        ∀ v, s.reply ≠ .stopped (.violation v) := by
  have hstanding : ∀ config, (Lexer.ofSource source config).Standing :=
    fun config => .inr (Lexer.ready_ofSource source config)
  have htwins : (Lexer.ofSource source { config with strict, lookaheadCapacity := capacity }).Twins
      (Lexer.ofSource source config) := Lexer.twins_ofSource source rfl
  exact ⟨htwins.seen_eq (hstanding _) requests, (hstanding config).legal requests⟩

end Lexis
