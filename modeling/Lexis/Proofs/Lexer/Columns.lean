import Lexis.Proofs.Lexer.Numbers
import Lexis.Proofs.Lexer.Reached
import Lexis.Proofs.Lexer.Reports
import Lexis.Proofs.Lexer.Tiling
import Lexis.Proofs.Location.Columns

/-!
# Reported columns

Whatever is reported starts at a boundary, and so do its notes: at the beginning of a token, or
behind a text that has been passed in it. The columns of all locations that a run reports hence
index the lines that they come with (`columns_index_lines`).
-/

namespace Lexis

open Utf8 (IsBoundary)

/-- The diagnostic and its notes start where code points begin or the text ends. -/
structure Diagnostic.OnBoundaries (bytes : ByteArray) (d : Diagnostic) : Prop where
  span : IsBoundary bytes d.span.start
  notes : ∀ note ∈ d.notes, ∀ span, note.span? = some span → IsBoundary bytes span.start

/-- The diagnostics have been located, and start at boundaries. -/
def Placed (source : Source) (ds : List Diagnostic) : Prop :=
  ∀ d ∈ ds, ∃ plain : Diagnostic, d = plain.located source ∧ plain.OnBoundaries source.contents

/-- The diagnostic and its notes start at boundaries, and have locations whose columns index their
lines. -/
structure Diagnostic.Indexed (bytes : ByteArray) (d : Diagnostic) : Prop where
  boundary : IsBoundary bytes d.span.start
  indexes : ∃ l, d.location? = some l ∧ Indexes bytes d.span.start l
  notes : ∀ note ∈ d.notes, ∀ span, note.span? = some span →
    IsBoundary bytes span.start ∧ ∃ l, note.location? = some l ∧ Indexes bytes span.start l

variable {source : Source}

theorem Source.indexes_locationOf {span : Span} (h : IsBoundary source.contents span.start) :
    Indexes source.contents span.start (source.locationOf span) :=
  (LineTracker.Sound.fresh source.path source.contents).indexes_location span h

theorem Diagnostic.OnBoundaries.indexed {d : Diagnostic} (h : d.OnBoundaries source.contents) :
    (d.located source).Indexed source.contents := by
  refine ⟨h.span, ⟨_, rfl, Source.indexes_locationOf h.span⟩, ?_⟩
  intro note hmem span hspan
  obtain ⟨⟨plain, hplain, hknown⟩, hlocation⟩ := Diagnostic.exists_note hmem hspan
  have hstart := h.notes plain hplain span hknown
  exact ⟨hstart, _, hlocation, Source.indexes_locationOf hstart⟩

theorem Placed.indexed {ds : List Diagnostic} (h : Placed source ds) :
    ∀ d ∈ ds, d.Indexed source.contents := by
  intro d hd
  obtain ⟨plain, rfl, hplain⟩ := h d hd
  exact hplain.indexed

/-! ## Where diagnostics start -/

theorem LexError.onBoundaries_diagnostic {e : LexError} {start : Nat}
    (hstart : IsBoundary source.contents start)
    (hlies : e.LiesIn start (Utf8.textFrom source.contents start)) :
    (e.diagnostic start).OnBoundaries source.contents := by
  constructor
  · obtain ⟨before, inside, rest, htext, hspan, -⟩ := hlies
    rw [List.append_assoc] at htext
    show IsBoundary source.contents e.span.start
    rw [hspan]
    exact hstart.of_spells (Utf8.spells_of_textFrom_eq hstart.1 htext)
  · intro note hmem span hnote
    cases hkind : e.kind with
    | unterminatedBlockComment =>
      simp only [LexError.diagnostic, hkind, List.mem_singleton] at hmem
      rw [hmem] at hnote
      obtain rfl : Span.ofLength start 2 = span := Option.some.inj hnote
      exact hstart
    | _ => simp [LexError.diagnostic, hkind] at hmem

namespace Lexer

variable {c c' : Cursor} {ch : Char} {lexeme : Lexeme} {l : Lexer}
  {config : LexerConfig}

/-- A problem starts where its token does, or where a name follows a number. -/
theorem onBoundaries_problem {problem : Problem} (hat : At source c) (hcur : c.current = .scalar ch)
    (hscan : scanAt c ch = .ok lexeme c') (hproblem : lexeme.problem? = some problem) :
    problem.diagnostic.OnBoundaries source.contents := by
  have hkind : lexeme.kind = .syntaxError := by
    have hfits := (scanAt_ok hcur hscan).2.problem
    rw [hproblem] at hfits
    exact hfits.1
  refine ⟨?_, List.forall_mem_nil _⟩
  show IsBoundary source.contents problem.span.start
  obtain hnumber | ⟨d, hopening, -⟩ :=
    opening_of_isNumberKind (makes_of_scanAt hscan) (.inr (.inr hkind))
  · obtain ⟨n, text, d, hpass, -, hlexeme⟩ := scanAt_sound hcur hscan hnumber
    rw [Scanner.numberLexeme_eq n.value hpass.started] at hlexeme
    split at hlexeme
    · cases hlexeme
      cases hproblem
      exact (hat.of_passes hpass).boundary
    · cases hlexeme
      cases hproblem
  · have hahead := hat.of_passes (Cursor.passes_lookahead hat.started 3)
    rw [scanAt, hopening] at hscan
    cases hscan
    cases hproblem
    exact hahead.boundary

/-! ## Calls -/

theorem placed_report (htracks : l.tracker.Tracks l.source)
    (hplaced : Placed l.source l.diagnostics.toList) {d : Diagnostic}
    (hd : d.OnBoundaries l.source.contents) : Placed l.source (l.report d).diagnostics.toList := by
  unfold report
  split
  · exact hplaced
  · obtain ⟨hplace, hnext⟩ := htracks.location d.span
    obtain ⟨hnotes, -⟩ := hnext.locateNotes d.notes
    intro d' hd'
    rw [Array.toList_push, hplace, hnotes] at hd'
    obtain hold | hnew := List.mem_append.1 hd'
    · exact hplaced d' hold
    · exact ⟨d, List.mem_singleton.1 hnew, hd⟩

theorem placed_abort (htracks : l.tracker.Tracks l.source)
    (hplaced : Placed l.source l.diagnostics.toList) {e : LexError} {start : Nat}
    (he : (e.diagnostic start).OnBoundaries l.source.contents) :
    Placed l.source (l.abort start e).diagnostics.toList :=
  placed_report (l := { l with phase := .finished }) htracks hplaced he

theorem placed_accept (hat : At l.source c) (htracks : l.tracker.Tracks l.source)
    (hplaced : Placed l.source l.diagnostics.toList) (hcur : c.current = .scalar ch)
    (hscan : scanAt c ch = .ok lexeme c') :
    Placed l.source (l.accept lexeme c').diagnostics.toList := by
  let moved : Lexer := { l with cursor := c', pragmas := l.pragmas.update lexeme.pragmas }
  rw [accept_eq]
  cases hproblem : lexeme.problem? with
  | none => exact hplaced
  | some problem =>
    have hproblem := onBoundaries_problem hat hcur hscan hproblem
    exact placed_report (l := moved) htracks hplaced hproblem

theorem placed_scan (hat : At l.source l.cursor) (htracks : l.tracker.Tracks l.source)
    (hplaced : Placed l.source l.diagnostics.toList) :
    Placed l.source l.scan.2.diagnostics.toList := by
  fun_induction scan l with
  | case1 l newline c hskip ch hcur e c' hfound =>
    have hat := at_skipWhitespace hat hskip
    have hlies := scanAt_error hcur hfound
    rw [hat.text_eq] at hlies
    exact placed_abort (l := { l with cursor := c', newlineBefore := newline }) htracks hplaced
      (e.onBoundaries_diagnostic hat.boundary hlies)
  | case2 l newline c hskip ch hcur lexeme c' hfound hlt hcomment ih =>
    have hat := at_skipWhitespace hat hskip
    obtain ⟨⟨passed, -, hpassed⟩, hfits⟩ := scanAt_ok hcur hfound
    have hkind := (Bool.and_eq_true_iff.1 hcomment).1
    rw [accept_of_none (problem?_eq_none_of_isComment hfits hkind)] at ih ⊢
    exact ih (hat.of_passes hpassed) htracks hplaced
  | case3 l newline c hskip ch hcur lexeme c' hfound hlt hcomment =>
    exact placed_accept (at_skipWhitespace hat hskip) htracks hplaced hcur hfound
  | case4 => exact hplaced

theorem placed_next (h : l.Ready) (hplaced : Placed l.source l.diagnostics.toList) :
    Placed l.source l.next.2.diagnostics.toList := by
  cases hphase : l.phase with
  | finished =>
    rw [next_of_finished hphase]
    exact hplaced
  | scanning =>
    rw [next_of_scanning hphase]
    exact placed_scan h.cursor h.tracks hplaced
  | start =>
    rw [next_of_start hphase]
    split
    · exact hplaced
    · exact placed_scan (l := l.begun) (ready_begun h).cursor h.tracks hplaced

/-- A template that is not terminated is reported from its brace on. -/
theorem placed_rescan (h : l.Ready) (hplaced : Placed l.source l.diagnostics.toList)
    {brace : Token} (hbrace : IsBoundary l.source.contents brace.offset) :
    Placed l.source (l.rescan brace).2.diagnostics.toList := by
  have hends := Scanner.ends_templateContinuation brace.offset { multiLine := true }
    h.cursor.started
  have hrescan := l.rescans brace
  generalize l.rescan brace = found at hrescan ⊢
  cases hrescan with
  | finished | refused | resumed => exact hplaced
  | @broken e c _ hfound =>
    unfold Scanner.Ends at hends
    rw [hfound] at hends
    obtain ⟨passed, c', -, rfl⟩ := hends
    exact placed_abort (l := { l with cursor := c }) h.tracks hplaced
      ⟨hbrace, List.forall_mem_nil _⟩

/-! ## Callers -/

/-- The demand is not about a token that starts elsewhere than at a boundary. -/
def Demand.OnBoundary (bytes : ByteArray) : Demand → Prop
  | .next | .iterate => True
  | .rescan brace => IsBoundary bytes brace.offset

/-- The lexer behind demands one after another. -/
def behind (l : Lexer) : List Demand → Lexer
  | [] => l
  | d :: demands => (l.meet d).2.behind demands

theorem behind_append (l : Lexer) (demands more : List Demand) :
    l.behind (demands ++ more) = (l.behind demands).behind more := by
  induction demands generalizing l with
  | nil => rfl
  | cons d demands ih => exact ih (l.meet d).2

theorem behind_of_finished (h : l.phase = .finished) (demands : List Demand) :
    l.behind demands = l := by
  induction demands with
  | nil => rfl
  | cons d demands ih => rw [behind, meet_of_finished h, ih]

theorem placed_meet (h : ReadyFor source config l) (hphase : l.phase ≠ .finished)
    (hplaced : Placed source l.diagnostics.toList) {d : Demand}
    (hd : d.OnBoundary source.contents) :
    Placed source (l.meet d).2.diagnostics.toList ∧
      ((l.meet d).2.phase = .finished ∨ ReadyFor source config (l.meet d).2) := by
  have hnext := placed_next h.ready (h.source_eq.symm ▸ hplaced)
  rw [h.source_eq] at hnext
  cases d with
  | next | iterate =>
    rw [meet, ask_snd]
    exact ⟨hnext, h.next hphase⟩
  | rescan brace =>
    have hrescan := placed_rescan h.ready (h.source_eq.symm ▸ hplaced) (h.source_eq.symm ▸ hd)
    rw [h.source_eq] at hrescan
    exact ⟨hrescan, h.rescan brace⟩

theorem placed_behind (h : l.phase = .finished ∨ ReadyFor source config l)
    (hplaced : Placed source l.diagnostics.toList) {demands : List Demand}
    (hdemands : ∀ d ∈ demands, d.OnBoundary source.contents) :
    Placed source (l.behind demands).diagnostics.toList := by
  induction demands generalizing l with
  | nil => exact hplaced
  | cons d demands ih =>
    by_cases hphase : l.phase = .finished
    · rw [behind_of_finished hphase]
      exact hplaced
    · rw [List.forall_mem_cons] at hdemands
      obtain ⟨hfirst, hnext⟩ := placed_meet (h.resolve_left hphase) hphase hplaced hdemands.1
      exact ih hnext hfirst hdemands.2

/-- A step of a driven run goes on with a template only at a token that has been returned. -/
theorem exists_demands_drive (h : l.Ready) (hphase : l.phase ≠ .finished) (again : Bool) :
    ∃ demands : List Demand, (∀ d ∈ demands, d.OnBoundary l.source.contents) ∧
      (l.drive again).2 = l.behind demands := by
  obtain ⟨start, hgap, hcall⟩ := next_call h hphase
  have hmeet : (l.meet .next).2 = l.next.2 := ask_snd l false
  have hdrive := l.drives again
  generalize l.drive again = found at hdrive ⊢
  cases hdrive with
  | broken hnext | returned hnext =>
    rw [hnext] at hmeet
    exact ⟨[.next], by simp [Demand.OnBoundary], hmeet.symm⟩
  | @resumed brace l' hnext =>
    rw [hnext] at hcall hmeet
    change Call l start (.ok brace) l' at hcall
    have hstart : IsBoundary l.source.contents brace.offset := by
      have hboundary := isBoundary_of_gap h hgap
      cases hcall with
      | token _ _ _ _ _ hoffset | finish _ _ hoffset => exact hoffset ▸ hboundary
    refine ⟨[.next, .rescan brace], by simpa [Demand.OnBoundary] using hstart, ?_⟩
    rw [behind, hmeet]
    rfl

/-- A driven run makes demands only about tokens that have been returned. -/
theorem exists_demands_driven (h : l.Ready) (choices : List Bool) :
    ∃ demands : List Demand, (∀ d ∈ demands, d.OnBoundary l.source.contents) ∧
      (l.driven choices).2 = l.behind demands := by
  induction choices generalizing l with
  | nil => exact ⟨[], List.forall_mem_nil _, rfl⟩
  | cons again choices ih =>
    by_cases hphase : l.phase = .finished
    · rw [driven_of_finished hphase]
      exact ⟨[], List.forall_mem_nil _, rfl⟩
    · obtain ⟨first, hfirst, hdrive⟩ := exists_demands_drive h hphase again
      obtain ⟨start, -, hcall⟩ := drive_call h hphase again
      rw [driven]
      generalize (l.drive again).1 = result at hcall
      generalize (l.drive again).2 = l' at hcall hdrive ⊢
      cases hcall with
      | token hready hsource =>
        obtain ⟨demands, hdemands, hbehind⟩ := ih hready
        rw [hsource] at hdemands
        refine ⟨first ++ demands, List.forall_mem_append.2 ⟨hfirst, hdemands⟩, ?_⟩
        rw [behind_append, ← hdrive, hbehind]
      | finish hfinished | abort hfinished =>
        rw [driven_of_finished hfinished]
        exact ⟨first, hfirst, hdrive⟩

theorem placed_ofSource (source : Source) (config : LexerConfig) {demands : List Demand}
    (hdemands : ∀ d ∈ demands, d.OnBoundary source.contents) :
    Placed source ((Lexer.ofSource source config).behind demands).diagnostics.toList :=
  placed_behind (.inr ⟨ready_ofSource source config, rfl, rfl⟩) (List.forall_mem_nil _) hdemands

theorem placed_driven (source : Source) (config : LexerConfig) (choices : List Bool) :
    Placed source ((Lexer.ofSource source config).driven choices).2.diagnostics.toList := by
  obtain ⟨demands, hdemands, hdriven⟩ :=
    exists_demands_driven (ready_ofSource source config) choices
  rw [hdriven]
  exact placed_ofSource source config hdemands

end Lexer

/-- Columns index lines: whatever a tracker has been asked, the column of a span that starts at a
boundary is an index into the text of its line, malformed bytes behind the span included, and fits
into 32 bits below the cap of sources. All that a lexer reports starts at boundaries and has such a column, and so have all notes, unless a caller
goes on with a template at a token that no lexer has returned; driven runs do not, nor does lexing
a file. -/
theorem columns_index_lines :
    (∀ path bytes queries (span : Span), IsBoundary bytes span.start →
      Indexes bytes span.start ((LineTracker.askAll { path, bytes } queries).location span).1 ∧
        (bytes.size + 1 < UInt32.size →
          ((LineTracker.askAll { path, bytes } queries).locate span.start).1.Fits)) ∧
    ∀ source config,
      (∀ demands : List Lexer.Demand, (∀ d ∈ demands, d.OnBoundary source.contents) →
        ∀ d ∈ ((Lexer.ofSource source config).behind demands).diagnostics.toList,
          d.Indexed source.contents) ∧
      (∀ choices, ∀ d ∈ ((Lexer.ofSource source config).driven choices).2.diagnostics.toList,
        d.Indexed source.contents) ∧
      ∀ d ∈ (LexedFile.ofSource source config).diagnostics, d.Indexed source.contents := by
  refine ⟨fun path bytes queries span hstart => ?_, fun source config =>
    ⟨fun demands hdemands => ?_, fun choices => ?_, ?_⟩⟩
  · obtain ⟨hsound, hbytes⟩ := (LineTracker.Sound.fresh path bytes).askAll queries
    change _ = bytes at hbytes
    have hindexes := hsound.indexes_location span (hbytes.symm ▸ hstart)
    rw [hbytes] at hindexes
    exact ⟨hindexes, fun hsize => hsound.fits_locate (hbytes.symm ▸ hsize) span.start⟩
  · exact (Lexer.placed_ofSource source config hdemands).indexed
  · exact (Lexer.placed_driven source config choices).indexed
  · obtain ⟨n, hresults, hlast⟩ := LexedFile.exists_driven_eq source config
    have hreports := Lexer.reports_ofSource source config (List.replicate n false)
    have hplaced := Lexer.placed_driven source config (List.replicate n false)
    rw [hresults, hlast] at hreports
    rw [hlast] at hplaced
    intro d hd
    rw [(LexedFile.diagnostics_ofSource hreports rfl).1] at hd
    exact hplaced.indexed d (DiagnosticQueue.admitted_subset config.errorLimit _ hd)

/-- A line with malformed bytes behind the third of its code points. -/
def malformedLine : ByteArray := "\r\n§ x".toUTF8 ++ ⟨#[0xFF, 0x23]⟩

theorem columns_index_lines_malformedLine :
    IsBoundary malformedLine 5 ∧ Indexes malformedLine 5
      ((LineTracker.askAll { path := "line", bytes := malformedLine }
        [.place 8, .location ⟨0, 1⟩]).location ⟨5, 6⟩).1 := by
  have hstart : IsBoundary malformedLine 5 := ⟨by decide, "\r\n§ ".toList, rfl⟩
  exact ⟨hstart, (columns_index_lines.1 "line" malformedLine _ ⟨5, 6⟩ hstart).1⟩

end Lexis
