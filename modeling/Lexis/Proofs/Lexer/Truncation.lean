import Lexis.Proofs.Lexer.Reports
import Lexis.Proofs.Lexer.Separation
import Lexis.Proofs.Location.Prefix

/-!
# Malformed bytes end the input

What stands behind the longest prefix of a source that is text is never looked at: lexing the source
and lexing that prefix come to the same (`ofSource_malformed`). Only the lines that are shown with
diagnostics go on beyond the prefix.
-/

namespace Lexis

open Utf8 (IsBoundary)

def Location.withoutText (loc : Location) : Location := { loc with lineText := "" }

def Note.withoutText (note : Note) : Note :=
  { note with location? := note.location?.map Location.withoutText }

/-- The diagnostic without the lines in which its span and those of its notes start. -/
def Diagnostic.withoutText (d : Diagnostic) : Diagnostic :=
  { d with
    location? := d.location?.map Location.withoutText
    notes := d.notes.map Note.withoutText }

def LexedFile.withoutText (f : LexedFile) : LexedFile :=
  { f with diagnostics := f.diagnostics.map Diagnostic.withoutText }

variable {a ab source : Source} {d : Diagnostic} {ds : List Diagnostic}

/-! ## Locations -/

theorem Source.withoutText_locationOf (source : Source) (span : Span) :
    (source.locationOf span).withoutText =
      { file := source.path
        line := (place source.contents span.start).line
        column := (place source.contents span.start).column
        len := span.len
        lineText := "" } := by
  let fresh : LineTracker := { path := source.path, bytes := source.contents }
  obtain ⟨hplace, -⟩ := (LineTracker.Sound.fresh source.path source.contents).locate span.start
  have hpath : (fresh.locate span.start).2.path = source.path := (fresh.locate_frame span.start).1
  simp only [locationOf, LineTracker.location, Location.withoutText, hplace, hpath, fresh]

/-- In the text that two sources begin with, they have the same locations. -/
theorem Source.locationOf_append {w : ByteArray} {span : Span} (hpath : ab.path = a.path)
    (hab : ab.contents = a.contents ++ w) (ha : a.contents.IsValidUTF8) (hspan : a.Covers span) :
    (ab.locationOf span).withoutText = (a.locationOf span).withoutText := by
  obtain ⟨hle, n, hgreatest, hstop⟩ := hspan
  have hstart : span.start ≤ a.contents.size :=
    Nat.le_trans (Nat.le_trans hle hstop) hgreatest.1.1
  obtain ⟨hline, hcolumn⟩ := place_append ha hstart w
  rw [withoutText_locationOf, withoutText_locationOf, hpath, hab, hline, hcolumn]

section Located

variable (hsame : ∀ span, a.Covers span →
  (ab.locationOf span).withoutText = (a.locationOf span).withoutText)

include hsame

theorem Note.withoutText_located {note : Note}
    (h : ∀ span, note.span? = some span → a.Covers span) :
    (note.located ab).withoutText = (note.located a).withoutText := by
  unfold located
  cases hspan : note.span? with
  | none => rfl
  | some span => simp only [withoutText, Option.map_some, hsame span (h span hspan)]

theorem Diagnostic.withoutText_located (h : (d.located a).Sound a) :
    (d.located ab).withoutText = (d.located a).withoutText := by
  have hnotes : (d.notes.map (Note.located ab)).map Note.withoutText =
      (d.notes.map (Note.located a)).map Note.withoutText := by
    rw [List.map_map, List.map_map]
    apply List.map_congr_left
    intro note hmem
    apply Note.withoutText_located hsame
    intro span hspan
    refine (h.notes (note.located a) (List.mem_map_of_mem hmem) span ?_).1
    unfold Note.located
    rw [hspan]
  simp only [withoutText, located, Option.map_some, hnotes, hsame d.span h.covers]

end Located

/-! ## Diagnostics -/

theorem LexError.unlocated_diagnostic (e : LexError) (start : Nat) :
    (e.diagnostic start).unlocated = e.diagnostic start := by
  obtain ⟨span, kind⟩ := e
  cases kind <;> rfl

/-- What is reported has its locations from the source alone. -/
theorem Reported.located_unlocated {keepComments : Bool} {offset : Nat}
    {results : List (Except Stop Token)} (h : Reported source keepComments offset results ds) :
    ∀ d ∈ ds, d.unlocated.located source = d := by
  apply h.forall_mem (p := fun d => d.unlocated.located source = d)
  · intro problem
    rw [Diagnostic.unlocated_located]
    rfl
  · intro e start
    rw [Diagnostic.unlocated_located, LexError.unlocated_diagnostic]

theorem Diagnostic.shift_zero (d : Diagnostic) : d.shift 0 = d := by
  have hnote : ∀ note : Note, note.shift 0 = note := by
    intro note
    obtain ⟨message, span?, location?⟩ := note
    cases span? <;> rfl
  have hnotes : d.notes.map (·.shift 0) = d.notes := by
    rw [List.map_congr_left fun note _ => hnote note, List.map_id']
  rw [shift, hnotes]
  rfl

theorem Reports.map_withoutText {keepComments : Bool} {offset : Nat}
    {results : List (Except Stop Token)} (h : Reports source keepComments offset results ds) :
    ds.map Diagnostic.withoutText =
      (ds.map Diagnostic.unlocated).map fun d => (d.located source).withoutText := by
  rw [List.map_map]
  apply List.map_congr_left
  intro d hd
  exact congrArg Diagnostic.withoutText (h.reported.located_unlocated d hd).symm

/-- What has been reported alike is shown alike, but for the lines. -/
theorem withoutText_of_unlocated {keepComments : Bool} {results results' : List (Except Stop Token)}
    {ds' : List Diagnostic} (h : Reports a keepComments 0 results ds)
    (h' : Reports ab keepComments 0 results' ds')
    (hunlocated : ds'.map Diagnostic.unlocated = ds.map Diagnostic.unlocated)
    (hsame : ∀ span, a.Covers span →
      (ab.locationOf span).withoutText = (a.locationOf span).withoutText) :
    ds'.map Diagnostic.withoutText = ds.map Diagnostic.withoutText := by
  rw [h'.map_withoutText, hunlocated, h.map_withoutText, List.map_map, List.map_map]
  apply List.map_congr_left
  intro d hd
  apply Diagnostic.withoutText_located hsame
  rw [h.reported.located_unlocated d hd]
  exact h.sound d hd

theorem DiagnosticQueue.map_admitted (f : Diagnostic → Diagnostic) (limit : Nat)
    (ds : List Diagnostic) : (admitted limit ds).map f = admitted limit (ds.map f) := by
  unfold admitted
  split
  · rfl
  · exact List.map_take

/-! ## Files -/

theorem LexedFile.reports (source : Source) (config : LexerConfig) :
    Reports source config.keepComments 0 (ofSource source config).results
      (Lexer.ofSource source config).rest.2.2.diagnostics.toList := by
  obtain ⟨n, hresults, hlast⟩ := exists_driven_eq source config
  have hreports := Lexer.reports_ofSource source config (List.replicate n false)
  rwa [hresults, hlast] at hreports

/-- Files about which the same has been reported have the same diagnostics, but for the lines. -/
theorem LexedFile.diagnostics_withoutText (config : LexerConfig)
    (hunlocated : (Lexer.ofSource ab config).rest.2.2.diagnostics.toList.map
        Diagnostic.unlocated =
      (Lexer.ofSource a config).rest.2.2.diagnostics.toList.map Diagnostic.unlocated)
    (hsame : ∀ span, a.Covers span →
      (ab.locationOf span).withoutText = (a.locationOf span).withoutText) :
    (ofSource ab config).diagnostics.map Diagnostic.withoutText =
        (ofSource a config).diagnostics.map Diagnostic.withoutText ∧
      (ofSource ab config).droppedErrors = (ofSource a config).droppedErrors := by
  obtain ⟨hkept, hcount⟩ := diagnostics_ofSource (reports a config) rfl
  obtain ⟨hkept', hcount'⟩ := diagnostics_ofSource (reports ab config) rfl
  have hshown := withoutText_of_unlocated (reports a config) (reports ab config) hunlocated hsame
  have hdiagnostics : (ofSource ab config).diagnostics.map Diagnostic.withoutText =
      (ofSource a config).diagnostics.map Diagnostic.withoutText := by
    rw [hkept, hkept', DiagnosticQueue.map_admitted, DiagnosticQueue.map_admitted, hshown]
  have hlength := congrArg List.length hdiagnostics
  have hreported := congrArg List.length hunlocated
  simp only [List.length_map] at hlength hreported
  exact ⟨hdiagnostics, by omega⟩

/-- Nothing is read behind the longest prefix that is text. -/
theorem textFrom_of_longest {a w : ByteArray}
    (h : IsGreatest {n | IsBoundary (a ++ w) n} a.size) :
    a.IsValidUTF8 ∧ Utf8.textFrom (a ++ w) 0 = Utf8.textFrom a 0 := by
  have ha : a.IsValidUTF8 := by
    have hprefix := h.1.2
    rwa [Utf8.extract_append_left (Nat.le_refl _), ByteArray.extract_zero_size] at hprefix
  have hvalid := Utf8.isGreatest_validEnd (a ++ w)
  have hend : Utf8.validEnd (a ++ w) 0 = a.size :=
    Nat.le_antisymm (h.2 hvalid.1) (hvalid.2 h.1)
  have hspells : Utf8.Spells (a ++ w) 0 (Utf8.validEnd (a ++ w) 0) _ :=
    Utf8.spells_validEnd (Nat.zero_le _)
  rw [hend] at hspells
  have hrest := Utf8.textFrom_append a w 0
  have hnone : Utf8.textFrom (a ++ w) a.size = [] :=
    List.append_right_eq_self.1 hspells.textFrom_eq.symm
  rw [Nat.add_zero, hnone] at hrest
  refine ⟨ha, ?_⟩
  rw [(Utf8.textFrom_append_of_isValidUTF8 ha w).2, ← hrest, List.append_nil]

theorem Token.movedAll_zero (tokens : List Token) : movedAll 0 false tokens = tokens := by
  rw [movedAll_false]
  exact List.map_id tokens

/-- Lexing a source whose longest prefix of text is followed by other bytes comes to what lexing
that prefix comes to, but for the lines shown with the diagnostics. -/
theorem ofSource_malformed (a ab : Source) (w : ByteArray) (config : LexerConfig)
    (hpath : ab.path = a.path) (hordinal : ab.ordinal = a.ordinal)
    (hab : ab.contents = a.contents ++ w)
    (hlongest : IsGreatest {n | IsBoundary ab.contents n} a.size) :
    (LexedFile.ofSource ab config).withoutText = (LexedFile.ofSource a config).withoutText := by
  rw [hab] at hlongest
  obtain ⟨ha, htext⟩ := textFrom_of_longest hlongest
  rw [← hab, ← List.append_nil (Utf8.textFrom a.contents 0)] at htext
  obtain ⟨htokens, hfatal, hprogress⟩ :=
    Lexer.rest_alike (Lexer.first_beside config .nil rfl htext).alike
  rw [Token.movedAll_zero] at htokens
  have hsame : ∀ span, a.Covers span →
      (ab.locationOf span).withoutText = (a.locationOf span).withoutText :=
    fun _ => Source.locationOf_append hpath hab ha
  obtain ⟨found, hpragmas, hpragmas'⟩ := hprogress.pragmas
  obtain ⟨ds, ds', hds, hds', hunlocated⟩ := hprogress.diagnostics
  have hds : (Lexer.ofSource a config).rest.2.2.diagnostics.toList = ds := hds
  have hds' : (Lexer.ofSource ab config).rest.2.2.diagnostics.toList = ds' := hds'
  simp only [Diagnostic.shift_zero, ← hds, ← hds'] at hunlocated
  obtain ⟨hdiagnostics, hdropped⟩ := LexedFile.diagnostics_withoutText config hunlocated hsame
  simp only [LexedFile.withoutText, LexedFile.mk.injEq]
  refine ⟨hordinal, htokens, hdiagnostics, hdropped, ?_, ?_⟩
  · exact hfatal.trans Option.map_id'
  · rw [Pragmas.shift_zero] at hpragmas'
    exact hpragmas'.trans hpragmas.symm

/-- A comment that does not end, on the second line. -/
def openComment : Source := ⟨"comment", "a\n/* b".toUTF8, 0, by decide⟩

/-- The same with the beginning of a line separator behind it, and a line feed. -/
def openCommentMalformed : Source :=
  ⟨"comment", "a\n/* b".toUTF8 ++ ⟨#[0xE2, 0x80, 0x0A, 0x63]⟩, 0, by decide⟩

theorem ofSource_malformed_openComment :
    IsGreatest {n | IsBoundary openCommentMalformed.contents n} openComment.size ∧
      (LexedFile.ofSource openCommentMalformed {}).withoutText =
        (LexedFile.ofSource openComment {}).withoutText := by
  have hend : Utf8.validEnd openCommentMalformed.contents 0 = openComment.size := by
    decide +kernel
  have hlongest : IsGreatest {n | IsBoundary openCommentMalformed.contents n} openComment.size :=
    hend ▸ Utf8.isGreatest_validEnd _
  exact ⟨hlongest, ofSource_malformed openComment openCommentMalformed
    ⟨#[0xE2, 0x80, 0x0A, 0x63]⟩ {} rfl rfl rfl hlongest⟩

end Lexis
