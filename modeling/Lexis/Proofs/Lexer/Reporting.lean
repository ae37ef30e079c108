import Lexis.Lexer
import Lexis.Proofs.Location.Tracker

/-!
# Reported diagnostics

A diagnostic that starts behind all that have been reported is collected, with the locations that a
tracker without a history gives.
-/

namespace Lexis

/-- The location that a tracker without a history gives. -/
def Source.locationOf (source : Source) (span : Span) : Location :=
  (LineTracker.location { path := source.path, bytes := source.contents } span).1

/-- The note with the location of its span. -/
def Note.located (source : Source) (note : Note) : Note :=
  match note.span? with
  | some span => { note with location? := some (source.locationOf span) }
  | none => note

/-- The diagnostic with the locations of its span and of its notes. -/
def Diagnostic.located (source : Source) (d : Diagnostic) : Diagnostic :=
  { d with
    location? := some (source.locationOf d.span)
    notes := d.notes.map (Note.located source) }

namespace LineTracker

/-- The tracker is about the source, and what it remembers is right. -/
structure Tracks (source : Source) (t : LineTracker) : Prop where
  sound : t.Sound
  path_eq : t.path = source.path
  bytes_eq : t.bytes = source.contents

variable {source : Source} {t : LineTracker}

theorem Tracks.location (h : t.Tracks source) (span : Span) :
    (t.location span).1 = source.locationOf span ∧ (t.location span).2.Tracks source := by
  obtain ⟨hplace, hsound, hpath, hbytes⟩ := h.sound.location span
  rw [h.path_eq, h.bytes_eq] at hplace
  exact ⟨hplace, hsound, hpath.trans h.path_eq, hbytes.trans h.bytes_eq⟩

theorem Tracks.locateNotes (h : t.Tracks source) (notes : List Note) :
    (Lexer.locateNotes t notes).1 = notes.map (Note.located source) ∧
      (Lexer.locateNotes t notes).2.Tracks source := by
  induction notes generalizing t with
  | nil => exact ⟨rfl, h⟩
  | cons note notes ih =>
    simp only [Lexer.locateNotes, List.map_cons, Note.located]
    cases note.span? with
    | none =>
      obtain ⟨hnotes, htracks⟩ := ih h
      exact ⟨congrArg (note :: ·) hnotes, htracks⟩
    | some span =>
      obtain ⟨hplace, hnext⟩ := h.location span
      obtain ⟨hnotes, htracks⟩ := ih hnext
      refine ⟨?_, htracks⟩
      simp only [hplace, hnotes]

end LineTracker

namespace Lexer

/-- All that has been reported starts before the offset. -/
def ReportedBefore (l : Lexer) (offset : Nat) : Prop :=
  ∀ d ∈ l.diagnostics, d.span.start < offset

theorem ReportedBefore.mono {l : Lexer} {offset offset' : Nat} (h : l.ReportedBefore offset)
    (hle : offset ≤ offset') : l.ReportedBefore offset' :=
  fun d hd => Nat.lt_of_lt_of_le (h d hd) hle

theorem report_eq {l : Lexer} {d : Diagnostic} (h : l.tracker.Tracks l.source)
    (hnew : l.ReportedBefore d.span.start) :
    ∃ t, t.Tracks l.source ∧
      l.report d = { l with
        tracker := t
        diagnostics := l.diagnostics.push (d.located l.source) } := by
  have hfirst : ¬ (l.diagnostics.any fun x => x.span.start == d.span.start) = true := by
    intro hany
    obtain ⟨x, hx, heq⟩ := Array.any_eq_true'.1 hany
    exact absurd (eq_of_beq heq) (Nat.ne_of_lt (hnew x hx))
  obtain ⟨hplace, hnext⟩ := h.location d.span
  obtain ⟨hnotes, htracks⟩ := hnext.locateNotes d.notes
  refine ⟨_, htracks, ?_⟩
  rw [report, if_neg hfirst, Diagnostic.located, ← hplace, ← hnotes]

end Lexer

end Lexis
