import Lexis.LineTracker
import Lexis.Lexer.Config
import Lexis.Lexer.Opening
import Lexis.Lexer.Violation
import Lexis.Source

/-!
# The lexer

A lexer hands out the tokens of one source, one for each call. What is wrong with the source is
collected as diagnostics in order of arrival; of several at the same offset the first one counts.
`Lexer.next` skips whitespace, recognises the opening of a token and runs its scanner; the end of
the input, once reached, is returned for ever. `remaining_next_lt` says that every other token
brings the lexer closer to it.
-/

namespace Lexis

open CharClass

inductive ScanPhase where
  /-- Nothing has been read; the file may begin like a script. -/
  | start
  | scanning
  /-- The end has been returned, or an error has ended the scan. -/
  | finished
  deriving DecidableEq, Inhabited

/-- Why a template does not go on. -/
inductive Stop where
  /-- The source is at fault; the scan is over. -/
  | fatal (e : LexError)
  /-- The lexer has been misused and stays as it was. -/
  | violation (v : Violation)
  deriving DecidableEq, Inhabited

structure Lexer where
  source : Source
  config : LexerConfig
  cursor : Cursor
  phase : ScanPhase := .start
  /-- Whether a line terminator has been skipped since the last token. -/
  newlineBefore : Bool := false
  tracker : LineTracker
  /-- What has been reported so far. -/
  diagnostics : Array Diagnostic := #[]
  pragmas : Pragmas := {}

namespace Lexer

def ofSource (source : Source) (config : LexerConfig) : Lexer where
  source
  config
  cursor := (Cursor.ofBytes source.contents config.lookaheadCapacity).advance
  tracker := { path := source.path, bytes := source.contents }

def isFinished (l : Lexer) : Bool := l.phase == .finished

/-! ## Diagnostics -/

def locateNotes (t : LineTracker) : List Note → List Note × LineTracker
  | [] => ([], t)
  | note :: notes =>
    let (note, t) := match note.span? with
      | some span =>
        let (loc, t) := t.location span
        ({ note with location? := some loc }, t)
      | none => (note, t)
    let (notes, t) := locateNotes t notes
    (note :: notes, t)

/-- Collects a diagnostic, unless something has already been reported at the same offset. -/
def report (l : Lexer) (d : Diagnostic) : Lexer :=
  if l.diagnostics.any (·.span.start == d.span.start) then l
  else
    let (loc, t) := l.tracker.location d.span
    let (notes, t) := locateNotes t d.notes
    { l with
      tracker := t
      diagnostics := l.diagnostics.push { d with location? := some loc, notes } }

@[simp]
theorem cursor_report (l : Lexer) (d : Diagnostic) : (l.report d).cursor = l.cursor := by
  unfold report
  split <;> rfl

def abort (l : Lexer) (start : Nat) (e : LexError) : Lexer :=
  { l with phase := .finished }.report (e.diagnostic start)

/-! ## Tokens -/

/-- Skips whitespace and tells whether a line terminator was there, or `newline`. -/
def skipWhitespace (newline : Bool) (c : Cursor) : Bool × Cursor :=
  match h : c.current with
  | .scalar ch =>
    have hlt := Cursor.remaining_advance_lt h
    have := Nat.lt_of_le_of_lt
      (Cursor.remaining_skipAsciiWhile_le (fun ch => ch == ' ' || ch == '\t') c.advance) hlt
    if ch = ' ' || ch = '\t' then
      skipWhitespace newline (c.advance.skipAsciiWhile fun ch => ch == ' ' || ch == '\t')
    else if isWhitespace ch then skipWhitespace (newline || isLineTerminator ch) c.advance
    else (newline, c)
  | _ => (newline, c)
termination_by c.remaining

theorem skipWhitespace_def (newline : Bool) (c : Cursor) :
    skipWhitespace newline c = match c.current with
      | .scalar ch =>
        if ch = ' ' || ch = '\t' then
          skipWhitespace newline (c.advance.skipAsciiWhile fun ch => ch == ' ' || ch == '\t')
        else if isWhitespace ch then
          skipWhitespace (newline || isLineTerminator ch) c.advance
        else (newline, c)
      | _ => (newline, c) := by
  rw [skipWhitespace]
  split
  · rename_i ch hcur
    simp only [hcur]
  · rename_i hnot
    split
    · rename_i ch hcur
      exact absurd hcur (hnot ch)
    · rfl

theorem remaining_skipWhitespace_le (newline : Bool) (c : Cursor) :
    (skipWhitespace newline c).2.remaining ≤ c.remaining := by
  fun_induction skipWhitespace newline c with
  | case1 => omega
  | case2 => omega
  | case3 => exact Nat.le_refl _
  | case4 => exact Nat.le_refl _

/-- The end of the input, where it stopped: behind the last byte or at malformed bytes. -/
def endToken (l : Lexer) : Token where
  kind := .endOfInput
  offset := if l.cursor.isEnd then l.cursor.index else l.source.size
  len := 0

/-- The token of a lexeme that begins at `start` and ends before the cursor. -/
def tokenOf (lexeme : Lexeme) (start : Nat) (newline : Bool) (c : Cursor) : Token where
  kind := lexeme.kind
  offset := start
  len := c.index - start
  flags := lexeme.flags.union { newlineBefore := newline }
  value? := lexeme.value?

/-- The lexer behind a lexeme: its pragmas are in force, and its problem is reported. -/
def accept (l : Lexer) (lexeme : Lexeme) (c : Cursor) : Lexer :=
  let l := { l with cursor := c, pragmas := l.pragmas.update lexeme.pragmas }
  match lexeme.problem? with
  | some problem => l.report problem.diagnostic
  | none => l

@[simp]
theorem cursor_accept (l : Lexer) (lexeme : Lexeme) (c : Cursor) :
    (l.accept lexeme c).cursor = c := by
  unfold accept
  split
  · exact cursor_report ..
  · rfl

def scanAt (c : Cursor) (ch : Char) : EStateM.Result LexError Cursor Lexeme :=
  (Opening.of ch (c.lookahead 3).1).scanner (c.lookahead 3).2

theorem remaining_scanAt_lt {c c' : Cursor} {ch : Char} {lexeme : Lexeme}
    (h : c.current = .scalar ch) (hscan : scanAt c ch = .ok lexeme c') :
    c'.remaining < c.remaining := by
  rw [← c.remaining_lookahead 3]
  refine Opening.consumes_scanner ((c.current_lookahead 3).trans h) ?_ lexeme c' hscan
  rw [c.lookahead_fst, Cursor.peek_fst _ (Cursor.not_overflows _ (by decide)),
    c.upcoming_lookahead, CodePoint.toChar?_ofChar?]
  cases c.upcoming <;> rfl

/-- The next token, whitespace and unwanted comments being skipped. -/
def scan (l : Lexer) : Except LexError Token × Lexer :=
  match hskip : skipWhitespace l.newlineBefore l.cursor with
  | (newline, c) =>
    match hcur : c.current with
    | .scalar ch =>
      match hscan : scanAt c ch with
      | .error e c' =>
        (.error e, { l with cursor := c', newlineBefore := newline }.abort c.index e)
      | .ok lexeme c' =>
        have : c'.remaining < l.cursor.remaining := by
          have hle := remaining_skipWhitespace_le l.newlineBefore l.cursor
          rw [hskip] at hle
          exact Nat.lt_of_lt_of_le (remaining_scanAt_lt hcur hscan) hle
        if lexeme.kind.isComment && !l.config.keepComments then
          scan { l.accept lexeme c' with newlineBefore := newline || lexeme.crossesLine }
        else
          (.ok (tokenOf lexeme c.index newline c'),
            { l.accept lexeme c' with newlineBefore := false })
    | _ =>
      (.ok (tokenOf { kind := .endOfInput } c.index newline c),
        { l with cursor := c, newlineBefore := false, phase := .finished })
termination_by l.cursor.remaining

/-- The first line of a script. -/
def scanHashbang (l : Lexer) : Except LexError Token × Lexer :=
  match Scanner.hashbang l.cursor with
  | .error e c => (.error e, { l with cursor := c }.abort l.cursor.index e)
  | .ok lexeme c =>
    (.ok (tokenOf lexeme l.cursor.index l.newlineBefore c),
      { l with cursor := c, newlineBefore := false })

def first (l : Lexer) : Except LexError Token × Lexer :=
  let hashbang := l.cursor.startsWith ['#', '!']
  let l := { l with cursor := hashbang.2, phase := .scanning }
  if hashbang.1 then l.scanHashbang else l.scan

def next (l : Lexer) : Except LexError Token × Lexer :=
  match l.phase with
  | .finished => (.ok l.endToken, l)
  | .scanning => l.scan
  | .start => l.first

/-- The next token, or nothing at the end of the input and from then on. -/
def next? (l : Lexer) : Option (Except LexError Token) × Lexer :=
  if l.isFinished then (none, l)
  else
    match l.next with
    | (.ok t, l) => (if t.kind == .endOfInput then none else some (.ok t), l)
    | (.error e, l) => (some (.error e), l)

/-- What a strict lexer finds wrong with going on with a template at the given token. -/
def rescanViolation? (l : Lexer) (brace : Token) : Option Violation :=
  if brace.kind != .operator .closeBrace then some .rescanOfOther
  else if brace.stop != l.cursor.index then some .rescanOfEarlier
  else none

/-- Goes on with a template at the brace that ends an interpolation, which has to be the last token
returned. The result takes the place of the brace. -/
def rescan (l : Lexer) (brace : Token) : Except Stop Token × Lexer :=
  if l.isFinished then (.ok l.endToken, l)
  else
    match if l.config.strict then l.rescanViolation? brace else none with
    | some v => (.error (.violation v), l)
    | none =>
      match Scanner.templateContinuation brace.offset { multiLine := true } l.cursor with
      | .error e c => (.error (.fatal e), { l with cursor := c }.abort brace.offset e)
      | .ok lexeme c =>
        (.ok (tokenOf lexeme brace.offset brace.flags.newlineBefore c), { l with cursor := c })

/-- What going on with a template at the given token comes to. -/
inductive Rescans (l : Lexer) (brace : Token) : Except Stop Token × Lexer → Prop
  | finished (phase_eq : l.phase = .finished) : Rescans l brace (.ok l.endToken, l)
  | refused {v : Violation} (running : l.phase ≠ .finished)
      (violation : (if l.config.strict then l.rescanViolation? brace else none) = some v) :
      Rescans l brace (.error (.violation v), l)
  | broken {e : LexError} {c : Cursor} (running : l.phase ≠ .finished)
      (scan : Scanner.templateContinuation brace.offset { multiLine := true } l.cursor =
        .error e c) :
      Rescans l brace (.error (.fatal e), { l with cursor := c }.abort brace.offset e)
  | resumed {lexeme : Lexeme} {c : Cursor} (running : l.phase ≠ .finished)
      (scan : Scanner.templateContinuation brace.offset { multiLine := true } l.cursor =
        .ok lexeme c) :
      Rescans l brace
        (.ok (tokenOf lexeme brace.offset brace.flags.newlineBefore c), { l with cursor := c })

theorem rescans (l : Lexer) (brace : Token) : Rescans l brace (l.rescan brace) := by
  unfold rescan
  split
  · rename_i hfinished
    exact .finished (beq_iff_eq.1 hfinished)
  · rename_i hnot
    have hrunning : l.phase ≠ .finished := mt beq_iff_eq.2 hnot
    split
    · exact .refused hrunning ‹_›
    · split
      · exact .broken hrunning ‹_›
      · exact .resumed hrunning ‹_›

/-! ## Every call makes progress -/

theorem remaining_scan_lt {l l' : Lexer} {t : Token} (h : l.scan = (.ok t, l'))
    (hfinished : l'.isFinished = false) : l'.cursor.remaining < l.cursor.remaining := by
  fun_induction scan l with
  | case1 => cases h
  | case2 l newline c hskip ch hcur lexeme c' hscan hlt hcomment ih =>
    refine Nat.lt_trans (ih h) ?_
    simpa using hlt
  | case3 l newline c hskip ch hcur lexeme c' hscan hlt hcomment =>
    cases h
    simpa using hlt
  | case4 =>
    cases h
    simp [isFinished] at hfinished

theorem remaining_scanHashbang_lt {l l' : Lexer} {t : Token} {ch : Char}
    (hcur : l.cursor.current = .scalar ch) (h : l.scanHashbang = (.ok t, l')) :
    l'.cursor.remaining < l.cursor.remaining := by
  unfold scanHashbang at h
  split at h
  · cases h
  · rename_i lexeme c hscan
    cases h
    exact Scanner.consumes_hashbang hcur lexeme c hscan

theorem remaining_first_lt {l l' : Lexer} {t : Token} (h : l.first = (.ok t, l'))
    (hfinished : l'.isFinished = false) : l'.cursor.remaining < l.cursor.remaining := by
  rw [← l.cursor.remaining_startsWith ['#', '!']]
  unfold first at h
  simp only at h
  split at h
  · rename_i hscript
    exact remaining_scanHashbang_lt (Cursor.current_of_startsWith hscript) h
  · exact remaining_scan_lt h hfinished

/-- A call that returns a token and does not finish the lexer leads closer to the end. -/
theorem remaining_next_lt {l l' : Lexer} {t : Token} (h : l.next = (.ok t, l'))
    (hfinished : l'.isFinished = false) : l'.cursor.remaining < l.cursor.remaining := by
  unfold next at h
  split at h
  · rename_i hphase
    cases h
    simp [isFinished, hphase] at hfinished
  · exact remaining_scan_lt h hfinished
  · exact remaining_first_lt h hfinished

theorem remaining_rescan_le {l l' : Lexer} {t brace : Token} (h : l.rescan brace = (.ok t, l'))
    (hfinished : l'.isFinished = false) : l'.cursor.remaining ≤ l.cursor.remaining := by
  have hle := Scanner.forward_templateContinuation brace.offset { multiLine := true } l.cursor
  cases h ▸ l.rescans brace with
  | finished hphase => simp [isFinished, hphase] at hfinished
  | resumed _ hscan =>
    rw [hscan] at hle
    exact hle

end Lexer

end Lexis
