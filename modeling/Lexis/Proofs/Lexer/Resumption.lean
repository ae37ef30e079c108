import Lexis.Proofs.Beside.Calls
import Lexis.Proofs.Utf8.Parts

/-!
# No memory between tokens

A lexer that is running goes on as a fresh one would on what is left of the source: behind a token
nothing of what has been read counts any more, neither what has been looked ahead at nor what has
been reported (`driven_resumes`).
-/

namespace Lexis

/-- The results up to the first end or error. -/
def untilEnd : List (Except Stop Token) → List (Except Stop Token)
  | [] => []
  | .error stop :: _ => [.error stop]
  | .ok t :: results => .ok t :: if t.kind = .endOfInput then [] else untilEnd results

theorem untilEnd_of_ne {t : Token} (h : t.kind ≠ .endOfInput) (results : List (Except Stop Token)) :
    untilEnd (.ok t :: results) = .ok t :: untilEnd results := by
  rw [untilEnd, if_neg h]

theorem untilEnd_of_end {t : Token} (h : t.kind = .endOfInput)
    (results : List (Except Stop Token)) : untilEnd (.ok t :: results) = [.ok t] := by
  rw [untilEnd, if_pos h]

namespace Lexer

variable {k : Nat} {gap u : List Char} {l l' m : Lexer}

/-! ## Lexers that are running -/

theorem newlineBefore_rescan (l : Lexer) (brace : Token) :
    (l.rescan brace).2.phase = .scanning → (l.rescan brace).2.newlineBefore = l.newlineBefore := by
  have hrescan := l.rescans brace
  generalize l.rescan brace = found at hrescan ⊢
  intro hrunning
  cases hrescan with
  | finished | refused | resumed => rfl
  | broken => exact absurd (phase_report ..) (phase_ne_finished hrunning)

theorem phase_of_rescan {brace : Token} (hrunning : (l.rescan brace).2.phase = .scanning) :
    l.phase = .scanning := by
  have hrescan := l.rescans brace
  generalize l.rescan brace = found at hrescan hrunning
  cases hrescan with
  | finished | refused | resumed => exact hrunning
  | broken => exact absurd (phase_report ..) (phase_ne_finished hrunning)

theorem newlineBefore_drive (l : Lexer) (again : Bool) :
    (l.drive again).2.phase = .scanning → (l.drive again).2.newlineBefore = false := by
  have hbetween := newlineBefore_next l
  have hdrive := l.drives again
  generalize l.drive again = found at hdrive ⊢
  cases hdrive with
  | broken hnext | returned hnext =>
    rw [hnext] at hbetween
    exact hbetween
  | @resumed brace l' hnext =>
    rw [hnext] at hbetween
    intro hrunning
    rw [newlineBefore_rescan l' brace hrunning]
    exact hbetween (phase_of_rescan hrunning)

theorem running_driven (h : l.Ready) (hphase : l.phase ≠ .finished) (choices : List Bool)
    (hne : choices ≠ []) (hrunning : (l.driven choices).2.isFinished = false) :
    ∃ t, (l.driven choices).1.getLast? = some (.ok t) ∧
      (l.driven choices).2.Running l.source l.config t := by
  have hended : (l.driven choices).2.phase ≠ .finished := by
    intro hfinished
    rw [isFinished, hfinished] at hrunning
    cases hrunning
  clear hrunning
  induction choices generalizing l with
  | nil => exact absurd rfl hne
  | cons again choices ih =>
    obtain ⟨start, -, hcall⟩ := drive_call h hphase again
    have hbetween := newlineBefore_drive l again
    rw [driven] at hended ⊢
    generalize (l.drive again).1 = result at *
    generalize (l.drive again).2 = l' at *
    simp only at hended ⊢
    cases hcall with
    | finish hfinished | abort hfinished =>
      rw [driven_of_finished hfinished] at hended
      exact absurd hfinished hended
    | @token t _ _ hready hsource hconfig hscanning _ _ hstop =>
      by_cases hlast : choices = []
      · rw [hlast]
        exact ⟨t, rfl, hready, hscanning, hsource, hconfig, hbetween hscanning, hstop⟩
      · obtain ⟨t', hlast', hnext⟩ := ih hready (phase_ne_finished hscanning) hlast hended
        rw [hsource, hconfig] at hnext
        refine ⟨t', ?_, hnext⟩
        rw [List.getLast?_cons, hlast']
        rfl

/-- A run depends on what the first call comes to. -/
theorem driven_congr (h : l.next = m.next) (again : Bool) (choices : List Bool) :
    l.driven (again :: choices) = m.driven (again :: choices) := by
  have hdrive : l.drive again = m.drive again := by
    unfold drive
    rw [h]
  rw [driven, driven, hdrive]

/-- Runs beside each other have the same results, as far as they go. -/
theorem driven_alike (h : Beside k false [] gap u l m) (choices : List Bool) :
    untilEnd (m.driven choices).1 = (untilEnd (l.driven choices).1).map (shiftResult · k) ∧
      Progress k l (l.driven choices).2 m (m.driven choices).2 := by
  induction choices generalizing l m gap u with
  | nil => exact ⟨rfl, .refl k l m⟩
  | cons again choices ih =>
    have hcalls := drive_alike h again
    rw [driven, driven]
    generalize hl : l.drive again = found at hcalls
    generalize hm : m.drive again = found' at hcalls
    cases hcalls with
    | token hkind hbeside hprogress =>
      obtain ⟨hresults, hrest⟩ := ih hbeside
      refine ⟨?_, hprogress.trans hrest⟩
      rw [Token.moved_false, untilEnd_of_ne hkind, untilEnd_of_ne (t := Token.shift _ k) hkind,
        hresults]
      rfl
    | @finish t l' m' hkind hfinished hfinished' hprogress =>
      rw [driven_of_finished hfinished, driven_of_finished hfinished']
      refine ⟨?_, hprogress⟩
      rw [Token.moved_false, untilEnd_of_end hkind, untilEnd_of_end (t := t.shift k) hkind]
      rfl
    | abort hfinished hfinished' hprogress =>
      rw [driven_of_finished hfinished, driven_of_finished hfinished']
      exact ⟨rfl, hprogress⟩

end Lexer

/-- A run that has come behind a token goes on like that of a fresh lexer on the rest of the source,
unless that begins like a script: with the same tokens and errors up to the first end or error, and
with the same diagnostics. -/
theorem driven_resumes (source : Source) (config : LexerConfig) (before : List Bool)
    (hne : before ≠ [])
    (hrunning : ((Lexer.ofSource source config).driven before).2.isFinished = false) :
    ∃ t, ((Lexer.ofSource source config).driven before).1.getLast? = some (.ok t) ∧
      ∀ rest : Source, rest.contents = source.contents.extract t.stop source.size →
        ¬ ['#', '!'] <+: Utf8.textFrom rest.contents 0 → ∀ after : List Bool,
          untilEnd (((Lexer.ofSource source config).driven before).2.driven after).1 =
              (untilEnd ((Lexer.ofSource rest config).driven after).1).map
                (shiftResult · t.stop) ∧
            ∃ ds, (((Lexer.ofSource source config).driven before).2.driven
                  after).2.diagnostics.toList =
                ((Lexer.ofSource source config).driven before).2.diagnostics.toList ++ ds ∧
              ds.map Diagnostic.unlocated =
                ((Lexer.ofSource rest config).driven after).2.diagnostics.toList.map
                  fun d => (d.shift t.stop).unlocated := by
  obtain ⟨t, hlast, hrun⟩ :=
    Lexer.running_driven (Lexer.ready_ofSource source config) nofun before hne hrunning
  refine ⟨t, hlast, ?_⟩
  intro rest hrest hplain after
  generalize ((Lexer.ofSource source config).driven before).2 = m at hrun ⊢
  have hbytes : m.source.contents = source.contents := congrArg Source.contents hrun.source_eq
  have hstop : t.stop ≤ source.contents.size := by
    rw [hrun.stop_eq, ← hbytes]
    exact hrun.ready.cursor.boundary.1
  have htext : m.cursor.text = Utf8.textFrom rest.contents 0 ++ [] := by
    rw [hrun.ready.cursor.text_eq, hbytes, ← hrun.stop_eq, hrest, List.append_nil]
    exact (Utf8.textFrom_extract hstop 0).symm
  have hbeside : Lexer.Beside t.stop false [] [] _ (Lexer.ofSource rest config).begun m :=
    hrun.beside .nil htext
  cases after with
  | nil => exact ⟨rfl, [], (List.append_nil _).symm, rfl⟩
  | cons again choices =>
    have hfresh := Lexer.driven_congr (Lexer.next_ofSource config hplain) again choices
    obtain ⟨hresults, hprogress⟩ := Lexer.driven_alike hbeside (again :: choices)
    rw [hfresh]
    refine ⟨hresults, ?_⟩
    obtain ⟨ds, ds', hds, hds', hsame⟩ := hprogress.diagnostics
    refine ⟨ds', hds', ?_⟩
    rw [hsame, hds]
    rfl

/-- A template around a name, and a string that does not end. -/
def greeting : Source :=
  ⟨"greeting", "\x60hi \x7bname\x7d!\x60 /* @edition 1 */ \"x".toUTF8, 0, by decide⟩

def greetingRest : Source := ⟨"rest", " /* @edition 1 */ \"x".toUTF8, 1, by decide⟩

theorem driven_resumes_greeting :
    ∃ t, ((Lexer.ofSource greeting {}).driven [false, false, true]).1.getLast? = some (.ok t) ∧
      t.kind = .templateTail ∧
      greetingRest.contents = greeting.contents.extract t.stop greeting.size ∧
      ∀ after, untilEnd (((Lexer.ofSource greeting {}).driven
          [false, false, true]).2.driven after).1 =
        (untilEnd ((Lexer.ofSource greetingRest {}).driven after).1).map
          (shiftResult · t.stop) := by
  obtain ⟨t, hlast, hresumes⟩ :=
    driven_resumes greeting {} [false, false, true] (by decide) (by decide +kernel)
  let tail : Token :=
    { kind := .templateTail
      offset := 9
      len := 3
      flags := { multiLine := true }
      value? := some (.text "!") }
  have htail : ((Lexer.ofSource greeting {}).driven [false, false, true]).1.getLast? =
      some (.ok tail) := by
    decide +kernel
  obtain rfl : t = tail := Except.ok.inj (Option.some.inj (hlast.symm.trans htail))
  have hrest : greetingRest.contents = greeting.contents.extract 12 greeting.size := rfl
  have hplain : ¬ ['#', '!'] <+: Utf8.textFrom greetingRest.contents 0 := by decide +kernel
  exact ⟨tail, hlast, rfl, hrest, fun after => (hresumes greetingRest hrest hplain after).1⟩

end Lexis
