import Lexis.Proofs.Lexer.Origin
import Lexis.Proofs.Lexer.Settings

/-!
# A scan ends once

An error finishes a lexer, and so does the end of the input, whatever the lexer is asked to do and
in whatever order: for tokens, for the items of an iterator, or to go on with a template at any
token at all. A finished lexer returns the end to every call, and nothing changes any more
(`met_ofSource`).
-/

namespace Lexis

/-- An error has ended the scan. -/
def Reply.isFatal : Reply → Bool
  | .stopped (.fatal _) => true
  | _ => false

/-- No token follows: the end has been reached, as a token or for an iterator, or an error has ended
the scan. -/
def Reply.isLast : Reply → Bool
  | .token t => t.kind == .endOfInput
  | .nothing => true
  | .stopped stop => Reply.isFatal (.stopped stop)

namespace Lexer

/-- What a lexer is asked to do. -/
inductive Demand where
  | next
  | iterate
  | rescan (brace : Token)

/-- The reply to a demand, and the lexer behind it. -/
def meet (l : Lexer) : Demand → Reply × Lexer
  | .next => l.ask false
  | .iterate => l.ask true
  | .rescan brace => (replyOf (l.rescan brace).1, (l.rescan brace).2)

/-- What is seen after each of the demands, in turn. -/
def met (l : Lexer) : List Demand → List Sight
  | [] => []
  | d :: demands => (l.meet d).2.sight (l.meet d).1 :: (l.meet d).2.met demands

/-- What a finished lexer replies that stands at the given end. -/
def Demand.replyBehind (last : Token) : Demand → Reply
  | .next | .rescan _ => .token last
  | .iterate => .nothing

variable {l l' : Lexer} {t : Token}

/-! ## Finished lexers -/

theorem meet_of_finished (h : l.phase = .finished) (d : Demand) :
    l.meet d = (d.replyBehind l.endToken, l) := by
  cases d with
  | next => rw [meet, ask_eq, next_of_finished h]; rfl
  | iterate => rw [meet, ask_eq, next_of_finished h]; rfl
  | rescan brace => rw [meet, rescan, if_pos ((isFinished_eq l).2 h)]; rfl

theorem met_of_finished (h : l.phase = .finished) (demands : List Demand) :
    l.met demands = demands.map fun d => l.sight (d.replyBehind l.endToken) := by
  induction demands with
  | nil => rfl
  | cons d demands ih => rw [met, meet_of_finished h, ih, List.map_cons]

/-! ## What a call leaves behind -/

/-- A lexer that has taken its first step, or has come to an end since. -/
def Going (l : Lexer) : Prop := l.phase = .finished ∨ l.cursor.Started

/-- What a reply leaves behind: a finished lexer if it is the last one, which stands at the end if
that has been returned. -/
structure Leaves (reply : Reply) (l : Lexer) : Prop where
  going : l.Going
  finished : reply.isLast = true → l.phase = .finished
  offset_eq : ∀ t, reply = .token t → t.kind = .endOfInput → l.endToken.offset = t.offset

theorem leaves_token (hkind : t.kind ≠ .endOfInput) (h : l.cursor.Started) :
    Leaves (.token t) l where
  going := .inr h
  finished := fun hlast => absurd (beq_iff_eq.1 hlast) hkind
  offset_eq := by
    rintro _ ⟨⟩ hend
    exact absurd hend hkind

theorem leaves_end (h : l.phase = .finished) (hoffset : l.endToken.offset = t.offset) :
    Leaves (.token t) l where
  going := .inl h
  finished := fun _ => h
  offset_eq := by
    rintro _ ⟨⟩ -
    exact hoffset

theorem leaves_nothing (h : l.phase = .finished) : Leaves .nothing l where
  going := .inl h
  finished := fun _ => h
  offset_eq := fun _ htoken => by cases htoken

theorem leaves_stopped {stop : Stop} (h : l.Going)
    (hfinished : Reply.isFatal (.stopped stop) = true → l.phase = .finished) :
    Leaves (.stopped stop) l where
  going := h
  finished := hfinished
  offset_eq := fun _ htoken => by cases htoken

theorem leaves_abort (l : Lexer) (start : Nat) (e : LexError) :
    Leaves (.stopped (.fatal e)) (l.abort start e) := by
  have hphase : (l.abort start e).phase = .finished := phase_report ..
  exact leaves_stopped (.inl hphase) fun _ => hphase

theorem leaves_scan (h : l.cursor.Started) :
    Leaves (replyOf (l.scan.1.mapError .fatal)) l.scan.2 := by
  fun_induction scan l with
  | case1 => exact leaves_abort ..
  | case2 l newline c hskip ch hcur lexeme c' hscan hlt hcomment ih =>
    obtain ⟨⟨passed, -, hpass⟩, -⟩ := scanAt_ok hcur hscan
    apply ih
    simp only [cursor_accept]
    exact hpass.started
  | case3 l newline c hskip ch hcur lexeme c' hscan hlt hcomment =>
    obtain ⟨⟨passed, -, hpass⟩, hfits⟩ := scanAt_ok hcur hscan
    apply leaves_token hfits.kind_ne
    simp only [cursor_accept]
    exact hpass.started
  | case4 l newline c hskip hnot =>
    obtain ⟨hgap, -⟩ := skipWhitespace_eq l.newlineBefore h
    rw [hskip] at hgap
    have hend : c.current = .endOfInput := by
      rw [hgap.started.current_eq_head, hgap.started.text_of_not_scalar hnot]
      rfl
    apply leaves_end rfl
    simp only [endToken, Cursor.isEnd, hend]
    rfl

theorem leaves_next (h : l.Going) : Leaves (replyOf (l.next.1.mapError .fatal)) l.next.2 := by
  cases hphase : l.phase with
  | finished =>
    rw [next_of_finished hphase]
    exact leaves_end hphase rfl
  | scanning =>
    rw [next_of_scanning hphase]
    exact leaves_scan (h.resolve_left (phase_ne_finished hphase))
  | start =>
    have hstart := h.resolve_left (by rw [hphase]; nofun)
    have hahead := Cursor.passes_startsWith hstart ['#', '!']
    rw [next_of_start hphase]
    split
    · have hmark := Cursor.passes_advanceBy hahead.started 1
      have hline := Cursor.passes_skipToLineEnd hmark.started
      exact leaves_token nofun hline.started
    · exact leaves_scan hahead.started

theorem leaves_ask (h : l.Going) (iterating : Bool) :
    Leaves (l.ask iterating).1 (l.ask iterating).2 := by
  have hleaves := leaves_next h
  rw [ask_eq]
  cases hnext : l.next.1 with
  | error e =>
    rw [hnext] at hleaves
    exact hleaves
  | ok t =>
    rw [hnext] at hleaves
    simp only
    split
    · rename_i hlast
      -- An iterator has nothing more to give at the end, which has finished the lexer.
      exact leaves_nothing (hleaves.finished (Bool.and_eq_true_iff.1 hlast).2)
    · exact hleaves

theorem leaves_rescan (h : l.Going) (brace : Token) :
    Leaves (replyOf (l.rescan brace).1) (l.rescan brace).2 := by
  have hrescan := l.rescans brace
  generalize l.rescan brace = found at hrescan ⊢
  cases hrescan with
  | finished hphase => exact leaves_end hphase rfl
  | refused => exact leaves_stopped h nofun
  | broken => exact leaves_abort ..
  | resumed hrunning hscan =>
    have hends := Scanner.ends_templateContinuation brace.offset { multiLine := true }
      (h.resolve_left hrunning)
    obtain ⟨⟨passed, hpass⟩, -, hfits⟩ := hends.of_ok hscan
    exact leaves_token hfits.kind_ne hpass.started

theorem leaves_meet (h : l.Going) (d : Demand) : Leaves (l.meet d).1 (l.meet d).2 := by
  cases d with
  | next => exact leaves_ask h false
  | iterate => exact leaves_ask h true
  | rescan brace => exact leaves_rescan h brace

/-! ## Runs -/

/-- Behind the last reply, only the end is replied, and nothing else changes. -/
theorem met_behind_last {demands : List Demand} {before after : List Sight} {s : Sight}
    (h : l.Going) (hmet : l.met demands = before ++ s :: after) (hlast : s.reply.isLast = true) :
    s.finished = true ∧ ∃ offset,
      (∀ t, s.reply = .token t → t.kind = .endOfInput → t.offset = offset) ∧
      after = (demands.drop (before.length + 1)).map fun d =>
        { s with reply := d.replyBehind { kind := .endOfInput, offset, len := 0 } } := by
  induction before generalizing l demands with
  | nil =>
    cases demands with
    | nil => cases hmet
    | cons d demands =>
      obtain ⟨rfl, rfl⟩ := List.cons.inj hmet
      have hleaves := leaves_meet h d
      have hphase := hleaves.finished hlast
      refine ⟨(isFinished_eq _).2 hphase, _, ?_, met_of_finished hphase demands⟩
      exact fun t ht hkind => (hleaves.offset_eq t ht hkind).symm
  | cons s' before ih =>
    cases demands with
    | nil => cases hmet
    | cons d demands => exact ih (leaves_meet h d).going (List.cons.inj hmet).2

theorem isLast_of_isFatal {reply : Reply} (h : reply.isFatal = true) : reply.isLast = true := by
  cases reply with
  | token => cases h
  | stopped => exact h
  | nothing => rfl

theorem countP_isFatal_le (h : l.Going) (demands : List Demand) :
    (l.met demands).countP (·.reply.isFatal) ≤ 1 := by
  induction demands generalizing l with
  | nil => exact Nat.zero_le _
  | cons d demands ih =>
    have hleaves := leaves_meet h d
    rw [met, List.countP_cons]
    split
    · rename_i hfatal
      have hphase := hleaves.finished (isLast_of_isFatal hfatal)
      have hnone : ((l.meet d).2.met demands).countP (·.reply.isFatal) = 0 := by
        rw [met_of_finished hphase, List.countP_eq_zero]
        intro s hs
        obtain ⟨d, -, rfl⟩ := List.mem_map.1 hs
        cases d <;> nofun
      rw [hnone]
    · exact ih hleaves.going

end Lexer

/-- However a lexer is asked for tokens and for templates to go on, there is at most one error. As
soon as a reply is an error or the end, the lexer is finished, and from then on it replies with the
same end and changes in nothing. -/
theorem met_ofSource (source : Source) (config : LexerConfig) (demands : List Lexer.Demand) :
    ((Lexer.ofSource source config).met demands).countP (·.reply.isFatal) ≤ 1 ∧
      ∀ before s after, (Lexer.ofSource source config).met demands = before ++ s :: after →
        s.reply.isLast = true →
          s.finished = true ∧ ∃ offset,
            (∀ t, s.reply = .token t → t.kind = .endOfInput → t.offset = offset) ∧
            after = (demands.drop (before.length + 1)).map fun d =>
              { s with reply := d.replyBehind { kind := .endOfInput, offset, len := 0 } } := by
  have hgoing : (Lexer.ofSource source config).Going :=
    .inr (Lexer.ready_ofSource source config).cursor.started
  refine ⟨Lexer.countP_isFatal_le hgoing demands, ?_⟩
  intro before s after hmet hlast
  exact Lexer.met_behind_last hgoing hmet hlast

end Lexis
