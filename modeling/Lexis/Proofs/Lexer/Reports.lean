import Lexis.Proofs.Diagnostic.Queue
import Lexis.Proofs.Lexer.Driven

/-!
# One diagnostic for each error

A run reports its syntax errors and the error that ends it, each once and in the order of its
results (`Reported`). Since every one of them starts behind the one before, none is taken for a
repetition, and what a file keeps of them is a prefix (`driven_reports`).
-/

namespace Lexis

open Utf8 (IsBoundary)

/-- What the results of a run from an offset on call for: a diagnostic inside each token that is a
syntax error, and one for the error that ends the run, in the token that was being scanned. -/
def Reported (source : Source) (keepComments : Bool) :
    (offset : Nat) → List (Except Stop Token) → List Diagnostic → Prop
  | _, [], ds => ds = []
  | _, .ok t :: results, ds =>
    if t.kind = .syntaxError then
      ∃ (problem : Problem) (ds' : List Diagnostic),
        ds = problem.diagnostic.located source :: ds' ∧ t.offset ≤ problem.span.start ∧
          problem.span.start < problem.span.stop ∧ problem.span.stop ≤ t.stop ∧
          Reported source keepComments t.stop results ds'
    else Reported source keepComments t.stop results ds
  | offset, .error (.fatal e) :: results, ds =>
    ∃ (start : Nat) (ds' : List Diagnostic), Gap source.contents keepComments offset start ∧
      e.LiesIn start (Utf8.textFrom source.contents start) ∧
      ds = (e.diagnostic start).located source :: ds' ∧
      Reported source keepComments start results ds'
  | _, .error (.violation _) :: _, _ => False

/-- The span lies in the text of the source. -/
def Source.Covers (source : Source) (span : Span) : Prop :=
  span.start ≤ span.stop ∧ ∃ n, IsGreatest {m | IsBoundary source.contents m} n ∧ span.stop ≤ n

/-- The spans of the diagnostic lie in the text of the source and have their locations. -/
structure Diagnostic.Sound (source : Source) (d : Diagnostic) : Prop where
  covers : source.Covers d.span
  location_eq : d.location? = some (source.locationOf d.span)
  notes : ∀ note ∈ d.notes, ∀ span, note.span? = some span →
    source.Covers span ∧ note.location? = some (source.locationOf span)

/-- What a run reports, in the order of arrival. -/
structure Reports (source : Source) (keepComments : Bool) (offset : Nat)
    (results : List (Except Stop Token)) (ds : List Diagnostic) : Prop where
  reported : Reported source keepComments offset results ds
  increasing : ds.Pairwise fun a b => a.span.start < b.span.start
  sound : ∀ d ∈ ds, d.Sound source
  start_le : ∀ d ∈ ds, offset ≤ d.span.start

/-- A result that a diagnostic is reported for. -/
def isFault : Except Stop Token → Bool
  | .ok t => t.kind == .syntaxError
  | .error _ => true

theorem Reported.length_eq {source : Source} {keepComments : Bool} {offset : Nat}
    {results : List (Except Stop Token)} {ds : List Diagnostic}
    (h : Reported source keepComments offset results ds) : ds.length = results.countP isFault := by
  fun_induction Reported source keepComments offset results ds with
  | case1 _ ds => rw [h, List.length_nil, List.countP_nil]
  | case2 _ t results ds herror ih =>
    obtain ⟨problem, ds', rfl, -, -, -, hrest⟩ := h
    have hfault : isFault (.ok t) = true := beq_iff_eq.2 herror
    rw [List.length_cons, List.countP_cons_of_pos hfault, ih ds' hrest]
  | case3 _ t results ds herror ih =>
    have hfault : ¬ isFault (.ok t) = true := mt beq_iff_eq.1 herror
    rw [List.countP_cons_of_neg hfault, ih h]
  | case4 _ e results ds ih =>
    obtain ⟨start, ds', -, -, rfl, hrest⟩ := h
    rw [List.length_cons, List.countP_cons_of_pos rfl, ih start ds' hrest]
  | case5 => exact h.elim

/-- What is reported are problems and errors, located in the source. -/
theorem Reported.forall_mem {source : Source} {keepComments : Bool} {offset : Nat}
    {results : List (Except Stop Token)} {ds : List Diagnostic} {p : Diagnostic → Prop}
    (h : Reported source keepComments offset results ds)
    (hproblem : ∀ problem : Problem, p (problem.diagnostic.located source))
    (herror : ∀ (e : LexError) (start : Nat), p ((e.diagnostic start).located source)) :
    ∀ d ∈ ds, p d := by
  fun_induction Reported source keepComments offset results ds with
  | case1 _ ds =>
    rw [h]
    exact List.forall_mem_nil _
  | case2 _ t results ds _ ih =>
    obtain ⟨problem, ds', rfl, -, -, -, hrest⟩ := h
    exact List.forall_mem_cons.2 ⟨hproblem problem, ih ds' hrest⟩
  | case3 _ t results ds _ ih => exact ih h
  | case4 _ e results ds ih =>
    obtain ⟨start, ds', -, -, rfl, hrest⟩ := h
    exact List.forall_mem_cons.2 ⟨herror e start, ih start ds' hrest⟩
  | case5 => exact h.elim

theorem Reported.isError {source : Source} {keepComments : Bool} {offset : Nat}
    {results : List (Except Stop Token)} {ds : List Diagnostic}
    (h : Reported source keepComments offset results ds) : ∀ d ∈ ds, d.isError = true :=
  h.forall_mem (fun _ => rfl) fun _ _ => rfl

theorem Source.covers_of_le {source : Source} {span : Span} (h : span.start ≤ span.stop)
    (hstop : span.stop ≤ Utf8.validEnd source.contents 0) : source.Covers span :=
  ⟨h, _, Utf8.isGreatest_validEnd source.contents, hstop⟩

/-- A note with a span is located there. -/
theorem Diagnostic.exists_note {source : Source} {d : Diagnostic} {note : Note} {span : Span}
    (hmem : note ∈ (d.located source).notes) (hspan : note.span? = some span) :
    (∃ plain ∈ d.notes, plain.span? = some span) ∧
      note.location? = some (source.locationOf span) := by
  obtain ⟨plain, hplain, rfl⟩ := List.mem_map.1 hmem
  cases hknown : plain.span? with
  | none => simp [Note.located, hknown] at hspan
  | some known =>
    simp only [Note.located, hknown] at hspan ⊢
    obtain rfl : known = span := by simpa using hspan
    exact ⟨⟨plain, hplain, hknown⟩, rfl⟩

theorem Diagnostic.sound_located {source : Source} {d : Diagnostic} (h : source.Covers d.span)
    (hnotes : ∀ note ∈ d.notes, ∀ span, note.span? = some span → source.Covers span) :
    (d.located source).Sound source := by
  refine ⟨h, rfl, ?_⟩
  intro note hmem span hspan
  obtain ⟨⟨plain, hplain, hknown⟩, hlocation⟩ := Diagnostic.exists_note hmem hspan
  exact ⟨hnotes plain hplain span hknown, hlocation⟩

theorem Problem.sound_diagnostic {source : Source} {problem : Problem}
    (hlt : problem.span.start < problem.span.stop)
    (hstop : problem.span.stop ≤ Utf8.validEnd source.contents 0) :
    (problem.diagnostic.located source).Sound source :=
  Diagnostic.sound_located (Source.covers_of_le (Nat.le_of_lt hlt) hstop) (List.forall_mem_nil _)

theorem LexError.sound_diagnostic {source : Source} {e : LexError} {start : Nat}
    (hstart : IsBoundary source.contents start)
    (hlies : e.LiesIn start (Utf8.textFrom source.contents start)) :
    ((e.diagnostic start).located source).Sound source := by
  have hend := (Utf8.spells_validEnd hstart.1).stop_eq
  rw [hstart.validEnd_eq] at hend
  obtain ⟨before, inside, rest, htext, hspan, hdivides⟩ := hlies
  rw [htext, Utf8.size_append, Utf8.size_append] at hend
  refine Diagnostic.sound_located (Source.covers_of_le ?_ ?_) ?_
  · show e.span.start ≤ e.span.stop
    rw [hspan]
    exact Nat.le_add_right _ _
  · show e.span.stop ≤ _
    rw [hspan]
    show start + Utf8.size before + Utf8.size inside ≤ _
    omega
  · intro note hmem span hnote
    cases hkind : e.kind with
    | unterminatedBlockComment =>
      rw [hkind] at hdivides
      obtain ⟨⟨comment, rfl⟩, -, -⟩ := hdivides
      simp only [LexError.diagnostic, hkind, List.mem_singleton] at hmem
      rw [hmem] at hnote
      obtain rfl : Span.ofLength start 2 = span := Option.some.inj hnote
      refine Source.covers_of_le (Nat.le_add_right _ _) ?_
      have hopening : Utf8.size (['/', '*'] ++ comment) = 2 + Utf8.size comment :=
        Utf8.size_append _ _
      show start + 2 ≤ _
      omega
    | _ => simp [LexError.diagnostic, hkind] at hmem

namespace Reports

variable {source : Source} {keepComments : Bool} {offset : Nat} {t : Token}
  {results : List (Except Stop Token)} {ds : List Diagnostic}

/-- For a token that is no syntax error nothing is reported. -/
theorem of_ne (h : Reports source keepComments t.stop results ds) (hne : t.kind ≠ .syntaxError)
    (hle : offset ≤ t.stop) : Reports source keepComments offset (.ok t :: results) ds where
  reported := by
    rw [Reported, if_neg hne]
    exact h.reported
  increasing := h.increasing
  sound := h.sound
  start_le d hd := Nat.le_trans hle (h.start_le d hd)

/-- Whatever is reported later starts behind the token that has the problem. -/
theorem problem {problem : Problem} (h : Reports source keepComments t.stop results ds)
    (herror : t.kind = .syntaxError) (hle : offset ≤ t.offset)
    (hfirst : t.offset ≤ problem.span.start) (hlt : problem.span.start < problem.span.stop)
    (hlast : problem.span.stop ≤ t.stop) (hbound : t.stop ≤ Utf8.validEnd source.contents 0) :
    Reports source keepComments offset (.ok t :: results)
      (problem.diagnostic.located source :: ds) where
  reported := by
    rw [Reported, if_pos herror]
    exact ⟨problem, ds, rfl, hfirst, hlt, hlast, h.reported⟩
  increasing := by
    refine h.increasing.cons fun d hd => ?_
    exact Nat.lt_of_lt_of_le hlt (Nat.le_trans hlast (h.start_le d hd))
  sound := List.forall_mem_cons.2
    ⟨Problem.sound_diagnostic hlt (Nat.le_trans hlast hbound), h.sound⟩
  start_le := by
    have hstart := Nat.le_trans hle hfirst
    have hstop := Nat.le_trans hstart (Nat.le_trans (Nat.le_of_lt hlt) hlast)
    exact List.forall_mem_cons.2 ⟨hstart, fun d hd => Nat.le_trans hstop (h.start_le d hd)⟩

/-- The error that ends a run is the last that is reported. -/
theorem abort {e : LexError} {start : Nat} (hoffset : IsBoundary source.contents offset)
    (hgap : Gap source.contents keepComments offset start)
    (hlies : e.LiesIn start (Utf8.textFrom source.contents start))
    (h : Reported source keepComments start results []) :
    Reports source keepComments offset (.error (.fatal e) :: results)
      [(e.diagnostic start).located source] where
  reported := ⟨start, [], hgap, hlies, rfl, h⟩
  increasing := List.pairwise_singleton _ _
  sound := by
    obtain ⟨gap, hspells⟩ := hgap.spells hoffset.1
    exact List.forall_mem_singleton.2 (e.sound_diagnostic (hoffset.of_spells hspells) hlies)
  start_le := List.forall_mem_singleton.2 (Nat.le_trans (hgap.le hoffset.1) hlies.start_le)

end Reports

namespace Lexer

variable {l : Lexer}

/-- Behind the end nothing is reported. -/
theorem reported_replicate (source : Source) (keepComments : Bool) (l : Lexer) (offset n : Nat) :
    Reported source keepComments offset (List.replicate n (.ok l.endToken)) [] := by
  have hkind : l.endToken.kind ≠ .syntaxError := by
    intro hkind
    cases hkind
  induction n generalizing offset with
  | zero => rfl
  | succ n ih =>
    rw [List.replicate_succ, Reported, if_neg hkind]
    exact ih l.endToken.stop

theorem reports_replicate (source : Source) (keepComments : Bool) (l : Lexer) (offset n : Nat) :
    Reports source keepComments offset (List.replicate n (.ok l.endToken)) [] :=
  ⟨reported_replicate .., .nil, List.forall_mem_nil _, List.forall_mem_nil _⟩

theorem reports_driven (h : l.Ready) (hphase : l.phase ≠ .finished) (choices : List Bool) :
    ∃ ds, (l.driven choices).2.diagnostics.toList = l.diagnostics.toList ++ ds ∧
      Reports l.source l.config.keepComments l.cursor.index (l.driven choices).1 ds := by
  induction choices generalizing l with
  | nil =>
    exact ⟨[], (List.append_nil _).symm, reports_replicate _ _ l _ 0⟩
  | cons again choices ih =>
    obtain ⟨start, hgap, hcall⟩ := drive_call h hphase again
    have hle := hgap.le h.cursor.boundary.1
    rw [driven]
    generalize (l.drive again).1 = result at *
    generalize (l.drive again).2 = l' at *
    cases hcall with
    | @token t _ text hready hsource hconfig hrunning hkind hoffset hstop hne hspells hcomplains =>
      obtain ⟨ds, hds, hrest⟩ := ih hready (phase_ne_finished hrunning)
      rw [hsource, hconfig, ← hstop] at hrest
      have hbound := (Utf8.isGreatest_validEnd _).2 hready.cursor.boundary
      rw [← hstop, hsource] at hbound
      unfold Complains at hcomplains
      by_cases herror : t.kind = .syntaxError
      · rw [if_pos herror] at hcomplains
        obtain ⟨problem, hpushed, hfirst, hlt, hlast⟩ := hcomplains
        refine ⟨problem.diagnostic.located l.source :: ds, ?_,
          hrest.problem herror (hoffset ▸ hle) hfirst hlt hlast hbound⟩
        rw [hds, hpushed, Array.toList_push, List.append_assoc]
        rfl
      · rw [if_neg herror] at hcomplains
        exact ⟨ds, hcomplains ▸ hds, hrest.of_ne herror (Nat.le_trans hle hspells.start_le)⟩
    | @finish t _ hfinished hkind hoffset hlen htext hsame =>
      rw [driven_of_finished hfinished]
      refine ⟨[], ?_, (reports_replicate _ _ _ _ _).of_ne (by simp [hkind]) ?_⟩
      · rw [hsame, List.append_nil]
      · exact Nat.le_trans hle (hoffset ▸ Nat.le_add_right _ _)
    | @abort e _ hfinished hlies hpushed =>
      rw [driven_of_finished hfinished]
      refine ⟨[(e.diagnostic start).located l.source], ?_,
        .abort h.cursor.boundary hgap hlies (reported_replicate _ _ _ _ _)⟩
      rw [hpushed, Array.toList_push]

theorem reports_ofSource (source : Source) (config : LexerConfig) (choices : List Bool) :
    Reports source config.keepComments 0 ((Lexer.ofSource source config).driven choices).1
      ((Lexer.ofSource source config).driven choices).2.diagnostics.toList := by
  have hindex : (Lexer.ofSource source config).cursor.index = 0 :=
    (At.ofSource source config.lookaheadCapacity).2
  obtain ⟨ds, hds, hreports⟩ := reports_driven (ready_ofSource source config) nofun choices
  rw [hindex] at hreports
  have hnone : (Lexer.ofSource source config).diagnostics.toList = [] := rfl
  rw [hnone, List.nil_append] at hds
  exact hds ▸ hreports

end Lexer

namespace LexedFile

/-- The results that the calls came to. -/
def results (f : LexedFile) : List (Except Stop Token) :=
  f.tokens.map .ok ++ (f.fatal?.map fun e => .error (.fatal e)).toList

theorem countP_results (f : LexedFile) :
    f.results.countP isFault =
      f.tokens.countP (fun t => t.kind == .syntaxError) + if f.fatal?.isSome then 1 else 0 := by
  rw [results, List.countP_append, List.countP_map]
  congr 1
  cases f.fatal? <;> rfl

theorem exists_driven_eq (source : Source) (config : LexerConfig) :
    ∃ n, ((Lexer.ofSource source config).driven (List.replicate n false)).1 =
        (ofSource source config).results ∧
      ((Lexer.ofSource source config).driven (List.replicate n false)).2 =
        (Lexer.ofSource source config).rest.2.2 := by
  obtain ⟨n, hn⟩ := Lexer.rest_eq_driven (Lexer.ofSource source config)
  exact ⟨n, congrArg Prod.fst hn, congrArg Prod.snd hn⟩

variable {source : Source} {config : LexerConfig} {ds : List Diagnostic}

theorem diagnostics_ofSource
    (h : Reports source config.keepComments 0 (ofSource source config).results ds)
    (hds : (Lexer.ofSource source config).rest.2.2.diagnostics.toList = ds) :
    (ofSource source config).diagnostics = DiagnosticQueue.admitted config.errorLimit ds ∧
      (ofSource source config).diagnostics.length + (ofSource source config).droppedErrors =
        ds.length := by
  obtain ⟨hkept, hcount⟩ := DiagnosticQueue.flush_of_increasing config.errorLimit h.reported.isError
    h.increasing
  rw [← hds, Array.foldl_toList] at hkept hcount
  have hdiagnostics : (ofSource source config).diagnostics =
      DiagnosticQueue.admitted config.errorLimit ds := hds ▸ hkept
  refine ⟨hdiagnostics, ?_⟩
  rw [hdiagnostics, ← hds]
  exact hcount

theorem hasErrors_iff {f : LexedFile} {limit : Nat} {keepComments : Bool}
    (h : Reported source keepComments 0 f.results ds)
    (hkept : f.diagnostics = DiagnosticQueue.admitted limit ds) :
    f.hasErrors = true ↔
      (∃ t ∈ f.tokens, t.kind = .syntaxError) ∨ f.fatal?.isSome = true := by
  have hlength := h.length_eq
  rw [countP_results] at hlength
  rw [hasErrors, Bool.or_eq_true, List.any_eq_true, hkept]
  by_cases hfatal : f.fatal?.isSome = true
  · simp [hfatal]
  · rw [or_iff_right hfatal, or_iff_left hfatal]
    rw [if_neg hfatal, Nat.add_zero] at hlength
    constructor
    · rintro ⟨d, hd, _⟩
      have hpos := List.length_pos_of_mem (DiagnosticQueue.admitted_subset limit ds hd)
      rw [hlength] at hpos
      obtain ⟨t, ht, hkind⟩ := List.countP_pos_iff.1 hpos
      exact ⟨t, ht, eq_of_beq hkind⟩
    · rintro ⟨t, ht, hkind⟩
      have hpos : 0 < ds.length := by
        rw [hlength]
        exact List.countP_pos_iff.2 ⟨t, ht, beq_iff_eq.2 hkind⟩
      have hne : DiagnosticQueue.admitted limit ds ≠ [] :=
        mt DiagnosticQueue.admitted_eq_nil_iff.1 (List.length_pos_iff.1 hpos)
      obtain ⟨d, hd⟩ := List.exists_mem_of_ne_nil _ hne
      exact ⟨d, hd, h.isError d (DiagnosticQueue.admitted_subset limit ds hd)⟩

end LexedFile

/-- The sink of every driven run has exactly what its results call for. Lexing a file keeps the
first of it, as much as the limit admits, and counts the rest; the file has errors if any token or
the end of the scan is one. -/
theorem driven_reports (source : Source) (config : LexerConfig) (choices : List Bool) :
    Reports source config.keepComments 0 ((Lexer.ofSource source config).driven choices).1
        ((Lexer.ofSource source config).driven choices).2.diagnostics.toList ∧
      (∃ n, ((Lexer.ofSource source config).driven (List.replicate n false)).1 =
          (LexedFile.ofSource source config).results ∧
        (LexedFile.ofSource source config).diagnostics =
          DiagnosticQueue.admitted config.errorLimit ((Lexer.ofSource source config).driven
            (List.replicate n false)).2.diagnostics.toList) ∧
      (LexedFile.ofSource source config).diagnostics.length +
          (LexedFile.ofSource source config).droppedErrors =
        (LexedFile.ofSource source config).tokens.countP (fun t => t.kind == .syntaxError) +
          (if (LexedFile.ofSource source config).fatal?.isSome then 1 else 0) ∧
      ((LexedFile.ofSource source config).hasErrors = true ↔
        (∃ t ∈ (LexedFile.ofSource source config).tokens, t.kind = .syntaxError) ∨
          (LexedFile.ofSource source config).fatal?.isSome = true) := by
  obtain ⟨n, hresults, hlast⟩ := LexedFile.exists_driven_eq source config
  have hreports := Lexer.reports_ofSource source config (List.replicate n false)
  rw [hresults, hlast] at hreports
  obtain ⟨hkept, hcount⟩ := LexedFile.diagnostics_ofSource hreports rfl
  refine ⟨Lexer.reports_ofSource source config choices, ⟨n, hresults, ?_⟩, ?_, ?_⟩
  · rw [hlast]
    exact hkept
  · rw [hcount, hreports.reported.length_eq]
    exact LexedFile.countP_results _
  · exact LexedFile.hasErrors_iff hreports.reported hkept

end Lexis
