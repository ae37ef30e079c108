import Lexis.Proofs.Lexer.Steps
import Lexis.Proofs.Scanner.Bodies

/-!
# Sources of a single token

A token that begins a source is the first one that is returned. If it is all of the source, only the
end follows, and nothing is reported.
-/

namespace Lexis

open CharClass

namespace Lexer

variable {l l' : Lexer} {c c' : Cursor} {ch : Char} {lexeme : Lexeme} {t : Token}

theorem skipWhitespace_of_not (newline : Bool) (hcur : c.current = .scalar ch)
    (hblank : isWhitespace ch = false) : skipWhitespace newline c = (newline, c) := by
  have hne : ∀ d, isWhitespace d = true → ch ≠ d := by
    rintro d hd rfl
    rw [hblank] at hd
    cases hd
  unfold skipWhitespace
  split
  · rename_i ch' hcur'
    obtain rfl : ch = ch' := by simpa [hcur] using hcur'
    simp [hblank, hne ' ' (by decide), hne '\t' (by decide)]
  · rfl

theorem skipWhitespace_of_end (newline : Bool) (htext : c.text = []) :
    skipWhitespace newline c = (newline, c) := by
  unfold skipWhitespace
  split
  · rename_i ch hcur
    rw [Cursor.text_of_scalar hcur] at htext
    cases htext
  · rfl

theorem scan_of_scanAt (hcur : l.cursor.current = .scalar ch) (hblank : isWhitespace ch = false)
    (hscan : scanAt l.cursor ch = .ok lexeme c') (hcomment : lexeme.kind.isComment = false) :
    l.scan = (.ok (tokenOf lexeme l.cursor.index l.newlineBefore c'),
      { l.accept lexeme c' with newlineBefore := false }) :=
  scan_of_token (skipWhitespace_of_not _ hcur hblank) hcur hscan (by rw [hcomment, Bool.false_and])

theorem scan_of_end (htext : l.cursor.text = []) :
    l.scan = (.ok (tokenOf { kind := .endOfInput } l.cursor.index l.newlineBefore l.cursor),
      { l with newlineBefore := false, phase := .finished }) := by
  refine scan_of_not_scalar (skipWhitespace_of_end _ htext) ?_
  intro ch hcur
  rw [Cursor.text_of_scalar hcur] at htext
  cases htext

theorem rest_of_running (hnext : l.next = (.ok t, l')) (hphase : l'.phase = .scanning) :
    l.rest = (t :: l'.rest.1, l'.rest.2) := by
  have hrunning : l'.isFinished = false := by
    rw [isFinished, hphase]
    rfl
  simp only [rest_eq l, hnext, hrunning, Bool.false_eq_true, if_false]

theorem rest_of_finished (hnext : l.next = (.ok t, l')) (hphase : l'.phase = .finished) :
    l.rest = ([t], none, l') := by
  simp only [rest_eq l, hnext, (isFinished_eq l').2 hphase, if_true]

theorem rest_of_end (hphase : l.phase = .scanning) (htext : l.cursor.text = []) :
    l.rest = ([tokenOf { kind := .endOfInput } l.cursor.index l.newlineBefore l.cursor], none,
      { l with newlineBefore := false, phase := .finished }) := by
  refine rest_of_finished ?_ rfl
  rw [next, hphase]
  exact scan_of_end htext

/-- A token at the beginning of a source is the first one, and the lexer goes on behind it. -/
theorem rest_ofSource {source : Source} {text : List Char} (config : LexerConfig)
    (hsource : source.contents = (ch :: text).utf8Encode) (hblank : isWhitespace ch = false)
    (hsharp : ch ≠ '#') :
    ∃ c, At source c ∧ c.index = 0 ∧ c.text = ch :: text ∧ ∀ lexeme c',
      scanAt c ch = .ok lexeme c' → lexeme.kind.isComment = false → lexeme.problem? = none →
        ∃ l' : Lexer, (Lexer.ofSource source config).rest =
            (tokenOf lexeme 0 false c' :: l'.rest.1, l'.rest.2) ∧
          l'.cursor = c' ∧ l'.phase = .scanning ∧ l'.newlineBefore = false ∧
          l'.diagnostics = #[] := by
  have hat : At source (Lexer.ofSource source config).begun.cursor :=
    (ready_begun (ready_ofSource source config)).cursor
  have htext : (Lexer.ofSource source config).begun.cursor.text = ch :: text := by
    rw [text_begun, hsource, Utf8.textFrom_utf8Encode]
  refine ⟨_, hat, index_begun source config, htext, ?_⟩
  intro lexeme c' hscan hcomment hproblem
  have hcur := hat.started.current_of_text_cons htext
  have hplain : ¬ ['#', '!'] <+: Utf8.textFrom source.contents 0 := by
    rw [hsource, Utf8.textFrom_utf8Encode, List.cons_prefix_cons]
    exact fun hscript => hsharp hscript.1.symm
  have hnext := (next_ofSource config hplain).trans (next_of_scanning rfl)
  rw [scan_of_scanAt hcur hblank hscan hcomment, accept_of_none hproblem, index_begun] at hnext
  exact ⟨_, rest_of_running hnext rfl, rfl, rfl, rfl, rfl⟩

end Lexer

/-- Lexing the source has given one token, which is all of it, then the end, and nothing else. -/
structure LexedFile.IsSingle (f : LexedFile) (source : Source) (t : Token) : Prop where
  tokens_eq : f.tokens = [t, { kind := .endOfInput, offset := source.size, len := 0 }]
  offset_eq : t.offset = 0
  len_eq : t.len = source.size
  diagnostics_eq : f.diagnostics = []
  droppedErrors_eq : f.droppedErrors = 0
  fatal?_eq : f.fatal? = none

namespace LexedFile

variable {source : Source} {ch : Char} {text : List Char} {lexeme : Lexeme}

theorem head?_tokens (config : LexerConfig)
    (hsource : source.contents = (ch :: text).utf8Encode)
    (hblank : isWhitespace ch = false) (hsharp : ch ≠ '#')
    (hscan : ∀ c : Cursor, c.Started → c.text = ch :: text →
      ∃ c', Lexer.scanAt c ch = .ok lexeme c')
    (hcomment : lexeme.kind.isComment = false) (hproblem : lexeme.problem? = none) :
    ∃ c', (ofSource source config).tokens.head? = some (Lexer.tokenOf lexeme 0 false c') := by
  obtain ⟨c, hat, hindex, htext, hrest⟩ := Lexer.rest_ofSource config hsource hblank hsharp
  obtain ⟨c', hfound⟩ := hscan c hat.started htext
  obtain ⟨l, hl, -⟩ := hrest lexeme c' hfound hcomment hproblem
  exact ⟨c', by rw [ofSource, hl]; rfl⟩

/-- A token that is all of a source is the only one of the file. -/
theorem isSingle_ofSource (config : LexerConfig)
    (hsource : source.contents = (ch :: text).utf8Encode)
    (hblank : isWhitespace ch = false) (hsharp : ch ≠ '#')
    (hscan : ∀ c : Cursor, c.Started → c.text = ch :: text →
      ∃ c', Lexer.scanAt c ch = .ok lexeme c' ∧ c.Passes (ch :: text) c')
    (hcomment : lexeme.kind.isComment = false) (hproblem : lexeme.problem? = none) :
    ∃ c', Utf8.Spells source.contents 0 c'.index (ch :: text) ∧
      (ofSource source config).IsSingle source (Lexer.tokenOf lexeme 0 false c') := by
  obtain ⟨c, hat, hindex, htext, hrest⟩ := Lexer.rest_ofSource config hsource hblank hsharp
  obtain ⟨c', hfound, hpass⟩ := hscan c hat.started htext
  obtain ⟨l, hl, rfl, hphase, hnewline, hdiagnostics⟩ := hrest lexeme c' hfound hcomment hproblem
  have hspells := hat.spells hpass
  rw [hindex] at hspells
  have hsize : l.cursor.index = source.size := by
    have hstop := hspells.stop_eq
    rw [Nat.zero_add, ← Utf8.size_utf8Encode, ← hsource] at hstop
    exact hstop
  have hbehind : l.cursor.text = [] :=
    hpass.text_eq_of_append (htext.trans (List.append_nil _).symm)
  rw [Lexer.rest_of_end hphase hbehind, hsize, hnewline] at hl
  have hend : Lexer.tokenOf { kind := .endOfInput } source.size false l.cursor =
      { kind := .endOfInput, offset := source.size, len := 0 } := by
    rw [Lexer.tokenOf, hsize, Nat.sub_self]
    rfl
  refine ⟨l.cursor, hspells, ?_, rfl, hsize, ?_, ?_, ?_⟩
  · rw [ofSource, hl, ← hend]
  · rw [ofSource, hl]
    simp [hdiagnostics, DiagnosticQueue.flush]
  · rw [ofSource, hl]
    simp [hdiagnostics]
  · rw [ofSource, hl]

end LexedFile

end Lexis
