import Mathlib.Data.List.TakeWhile
import Lexis.Proofs.Beside.Alone
import Lexis.Proofs.Lexer.Reports
import Lexis.Proofs.Lexer.Single
import Lexis.Proofs.Lexer.Steps
import Lexis.Proofs.Utf8.Parts

/-!
# Tokens are lexed again

A scanner looks past the end of its token, but what it sees there settles only where the token ends.
A file that has nothing but the bytes of a token has that token and then the end, and the token is
reported or not as before (`ofSource_part`).
-/

namespace Lexis

open CharClass

namespace Lexer

variable {l l' before after : Lexer} {t : Token}

/-! ## The lexers that return tokens -/

/-- Lexing a file, the one lexer has returned the token and left the other one. -/
structure Returns (l : Lexer) (t : Token) (before after : Lexer) : Prop where
  ready : before.Ready
  running : before.phase ≠ .finished
  begins : before = l ∨ before.phase = .scanning
  source_eq : before.source = l.source
  config_eq : before.config = l.config
  next_eq : before.next = (.ok t, after)
  /-- Whatever is reported later starts behind the token. -/
  later : ∃ ds, l.rest.2.2.diagnostics.toList = after.diagnostics.toList ++ ds ∧
    ∀ d ∈ ds, t.stop ≤ d.span.start

theorem exists_returns (h : l.Ready) (hphase : l.phase ≠ .finished) (ht : t ∈ l.rest.1)
    (hkind : t.kind ≠ .endOfInput) : ∃ before after, Returns l t before after := by
  fun_induction rest l with
  | case1 => cases ht
  | case2 l t' l' hnext hfinished =>
    obtain ⟨start, -, hcall⟩ := next_call h hphase
    rw [hnext] at hcall
    obtain rfl := List.mem_singleton.1 ht
    change Call l start (.ok t) l' at hcall
    cases hcall with
    | token _ _ _ hrunning => simp [isFinished, hrunning] at hfinished
    | finish _ hend => exact absurd hend hkind
  | case3 l t' l' hnext hfinished hlt tokens error? last hrest ih =>
    obtain ⟨start, -, hcall⟩ := next_call h hphase
    rw [hnext] at hcall
    change Call l start (.ok t') l' at hcall
    cases hcall with
    | finish hended => simp [isFinished, hended] at hfinished
    | token hready hsource hconfig hrunning _ _ hstop =>
      have hlast : l.rest.2.2 = l'.rest.2.2 := by
        rw [rest_eq l, hnext]
        simp only [if_neg hfinished]
      obtain rfl | hmem := List.mem_cons.1 ht
      · obtain ⟨n, hdriven⟩ := rest_eq_driven l'
        obtain ⟨ds, hds, hreports⟩ :=
          reports_driven hready (phase_ne_finished hrunning) (List.replicate n false)
        rw [hdriven, ← hlast] at hds
        refine ⟨l, l', h, hphase, .inl rfl, rfl, rfl, hnext, ds, hds, ?_⟩
        rw [hstop]
        exact hreports.start_le
      · rw [hrest] at ih
        obtain ⟨before, after, hreturns⟩ := ih hready (phase_ne_finished hrunning) hmem
        refine ⟨before, after, { hreturns with
          begins := .inr (hreturns.begins.elim (fun hbefore => hbefore ▸ hrunning) id)
          source_eq := hreturns.source_eq.trans hsource
          config_eq := hreturns.config_eq.trans hconfig
          later := hlast ▸ hreturns.later }⟩

/-- A scan that keeps comments finds its token behind whitespace. -/
theorem scan_eq_ok (hkeep : l.config.keepComments = true) (hscan : l.scan = (.ok t, l'))
    (hkind : t.kind ≠ .endOfInput) :
    ∃ newline c ch lexeme c', skipWhitespace l.newlineBefore l.cursor = (newline, c) ∧
      c.current = .scalar ch ∧ scanAt c ch = .ok lexeme c' ∧
      t = tokenOf lexeme c.index newline c' ∧
      l' = { l.accept lexeme c' with newlineBefore := false } := by
  cases hskip : skipWhitespace l.newlineBefore l.cursor with
  | mk newline c =>
    rw [scan_eq hskip] at hscan
    split at hscan
    · rename_i ch hcur
      split at hscan
      · cases hscan
      · rename_i lexeme c' hfound
        rw [hkeep, if_neg (by simp)] at hscan
        cases hscan
        exact ⟨newline, c, ch, lexeme, c', rfl, hcur, hfound, rfl, rfl⟩
    · cases hscan
      exact absurd rfl hkind

/-! ## What is reported of a lexeme -/

theorem length_problems_le (lexeme : Lexeme) : (problems lexeme).length ≤ 1 := by
  unfold problems
  cases lexeme.problem? with
  | none => exact Nat.zero_le _
  | some problem => exact Nat.le_refl _

theorem span_of_mem_problems {lexeme : Lexeme} {start stop : Nat} (hfits : lexeme.Fits start stop) :
    ∀ d ∈ problems lexeme, start ≤ d.span.start ∧ d.span.start < stop := by
  intro d hd
  have hspan := hfits.problem
  unfold problems at hd
  cases hproblem : lexeme.problem? with
  | none =>
    rw [hproblem] at hd
    cases hd
  | some problem =>
    rw [hproblem] at hd hspan
    obtain rfl := List.mem_singleton.1 hd
    exact ⟨hspan.2.1, Nat.lt_of_lt_of_le hspan.2.2.1 hspan.2.2.2⟩

theorem problems_shift (lexeme : Lexeme) (n : Nat) (source part : Source) :
    ((problems (lexeme.shift n)).map (Diagnostic.located source)).map Diagnostic.unlocated =
      ((problems lexeme).map (Diagnostic.located part)).map fun d => (d.shift n).unlocated := by
  unfold problems Lexeme.shift
  cases lexeme.problem? with
  | none => rfl
  | some problem =>
    exact congrArg (fun d => [d])
      (Diagnostic.unlocated_located_shift problem.diagnostic part source n)

/-! ## Tokens that are all of a source -/

theorem opening_of_sharp (ahead : List Char) : Opening.of '#' ahead = .unexpected '#' := by
  have hnone : Operator.recognize? ('#' :: ahead) = none := by
    cases hop : Operator.recognize? ('#' :: ahead) with
    | none => rfl
    | some op =>
      have hspelled := Operator.spelling_prefix_of_recognize? hop
      cases op <;> exact absurd (List.cons_prefix_cons.1 hspelled).1 (by decide)
  rw [Opening.of_of_not_mem (by decide), if_neg (by decide), Opening.ofOther, hnone]
  rfl

/-- A scan does not find the first line of a script. -/
theorem not_script_of_scanAt {c c' : Cursor} {ch : Char} {text : List Char} {lexeme : Lexeme}
    (hcur : c.current = .scalar ch) (hscan : scanAt c ch = .ok lexeme c')
    (hpass : c.Passes (ch :: text) c') : ¬ ['#', '!'] <+: ch :: text := by
  rintro ⟨rest, hrest⟩
  cases hrest
  have hahead := Cursor.passes_lookahead (.of_scalar hcur) 3
  rw [scanAt, opening_of_sharp] at hscan
  obtain ⟨d, hfound, hsharp⟩ := Scanner.unexpected_eq_ok '#' hahead.started
    (hahead.text_eq_of_nil.trans (Cursor.text_of_scalar hcur))
  cases hscan.symm.trans hfound
  cases hpass.unique (hahead.trans hsharp)

/-- A lexeme is found again at the beginning of a source that consists of its text. -/
theorem exists_scanAt_begun {part : Source} {c c' : Cursor} {ch : Char} {text : List Char}
    {lexeme : Lexeme} (h : c.Started) (hscan : scanAt c ch = .ok lexeme c')
    (hpass : c.Passes (ch :: text) c') (hpart : part.contents = (ch :: text).utf8Encode)
    (config : LexerConfig) :
    ∃ lexeme' d, scanAt (Lexer.ofSource part config).begun.cursor ch = .ok lexeme' d ∧
      lexeme = lexeme'.shift c.index ∧ d.index = c'.index - c.index ∧ d.text = [] := by
  have hahead := passes_begun (ready_ofSource part config)
  have hindex := index_begun part config
  have htext : (Lexer.ofSource part config).begun.cursor.text = ch :: text := by
    rw [text_begun, hpart, Utf8.textFrom_utf8Encode]
  obtain ⟨lexeme', d, hagain, hsame, hpass'⟩ :=
    scanAt_alone h hahead.started (by rw [hindex]; exact Nat.add_comm ..) hscan hpass htext
  refine ⟨lexeme', d, hagain, lexeme.shift_zero.symm.trans hsame, ?_, ?_⟩
  · rw [hpass.index_eq, hpass'.index_eq, hindex, Nat.add_sub_cancel_left, Nat.zero_add]
  · exact hpass'.text_eq_of_append (htext.trans (List.append_nil _).symm)

/-- A lexeme at the beginning of a source is its first token. -/
theorem next_of_scanAt_begun {part : Source} {config : LexerConfig} {ch : Char} {text : List Char}
    {lexeme : Lexeme} {d : Cursor} (hkeep : config.keepComments = true)
    (hblank : isWhitespace ch = false) (hplain : ¬ ['#', '!'] <+: ch :: text)
    (htext : Utf8.textFrom part.contents 0 = ch :: text)
    (hscan : scanAt (Lexer.ofSource part config).begun.cursor ch = .ok lexeme d) :
    (Lexer.ofSource part config).next = (.ok (tokenOf lexeme 0 false d),
      { (Lexer.ofSource part config).begun.accept lexeme d with newlineBefore := false }) := by
  have hcur := (passes_begun (ready_ofSource part config)).started.current_of_text_cons
    ((text_begun part config).trans htext)
  have hkept : (lexeme.kind.isComment && !(Lexer.ofSource part config).begun.config.keepComments) =
      false := by
    show (lexeme.kind.isComment && !config.keepComments) = false
    rw [hkeep, Bool.not_true, Bool.and_false]
  rw [next_ofSource config (htext ▸ hplain), next_of_scanning rfl,
    scan_of_token (skipWhitespace_of_not _ hcur hblank) hcur hscan hkept, index_begun]
  rfl

end Lexer

/-- The token without its place. -/
def Token.placeless (t : Token) : Token :=
  { t with
    offset := 0
    flags := { t.flags with newlineBefore := false } }

/-- The file is that of a token alone: the token again and then the end, with what has been reported
of the token. -/
structure LexedFile.Repeats (f : LexedFile) (t : Token) (reported : List Diagnostic) : Prop where
  tokens_eq : ∃ t', f.tokens = [t', { kind := .endOfInput, offset := t.len, len := 0 }] ∧
    t'.offset = 0 ∧ t'.placeless = t.placeless
  fatal?_eq : f.fatal? = none
  diagnostics_eq : reported.map Diagnostic.unlocated =
    f.diagnostics.map fun d => (d.shift t.offset).unlocated

namespace LexedFile

variable {source part : Source} {config : LexerConfig} {t : Token}

/-- No limit keeps a single diagnostic from being handed back. -/
theorem diagnostics_eq_sink
    (h : (Lexer.ofSource source config).rest.2.2.diagnostics.toList.length ≤ 1) :
    (ofSource source config).diagnostics =
      (Lexer.ofSource source config).rest.2.2.diagnostics.toList := by
  obtain ⟨n, hresults, hlast⟩ := exists_driven_eq source config
  have hreports := Lexer.reports_ofSource source config (List.replicate n false)
  rw [hresults, hlast] at hreports
  rw [(diagnostics_ofSource hreports rfl).1, DiagnosticQueue.admitted]
  split
  · rfl
  · exact List.take_of_length_le (Nat.le_trans h (Nat.pos_of_ne_zero ‹_›))

/-- A token that is all of a source, and the end behind it. -/
theorem repeats_of_next {t' : Token} {after : Lexer} {reported : List Diagnostic}
    (hnext : (Lexer.ofSource part config).next = (.ok t', after)) (hphase : after.phase = .scanning)
    (hnewline : after.newlineBefore = false) (hend : after.cursor.text = [])
    (hoffset : t'.offset = 0) (hsame : t'.placeless = t.placeless)
    (hstop : after.cursor.index = t.len) (hshort : after.diagnostics.toList.length ≤ 1)
    (hreported : reported.map Diagnostic.unlocated =
      after.diagnostics.toList.map fun d => (d.shift t.offset).unlocated) :
    (ofSource part config).Repeats t reported := by
  have hlast : Lexer.tokenOf { kind := .endOfInput } after.cursor.index after.newlineBefore
      after.cursor = { kind := .endOfInput, offset := t.len, len := 0 } := by
    rw [hnewline, hstop, Lexer.tokenOf, hstop, Nat.sub_self]
    rfl
  have hrest : (Lexer.ofSource part config).rest =
      ([t', { kind := .endOfInput, offset := t.len, len := 0 }], none,
        { after with
          newlineBefore := false
          phase := .finished }) := by
    rw [Lexer.rest_of_running hnext hphase, Lexer.rest_of_end hphase hend, hlast]
  have hsink : (Lexer.ofSource part config).rest.2.2.diagnostics = after.diagnostics :=
    congrArg (fun found => found.2.2.diagnostics) hrest
  constructor
  · exact ⟨t', congrArg Prod.fst hrest, hoffset, hsame⟩
  · exact congrArg (fun found => found.2.1) hrest
  · rw [diagnostics_eq_sink (hsink ▸ hshort), hsink, hreported]

/-- A token that a scan has found is found again in its own bytes. -/
theorem repeats_of_scan {l l' : Lexer} (h : l.Ready) (hkeep : l.config.keepComments = true)
    (hkeep' : config.keepComments = true) (hscan : l.scan = (.ok t, l'))
    (hkind : t.kind ≠ .endOfInput)
    (hpart : part.contents = l.source.contents.extract t.offset t.stop) :
    ∃ ds, l'.diagnostics.toList = l.diagnostics.toList ++ ds ∧
      (∀ d ∈ l.diagnostics.toList, d.span.start < t.offset) ∧
      (∀ d ∈ ds, t.offset ≤ d.span.start ∧ d.span.start < t.stop) ∧
      (ofSource part config).Repeats t ds := by
  obtain ⟨newline, c, ch, lexeme, c', hskip, hcur, hfound, rfl, rfl⟩ :=
    Lexer.scan_eq_ok hkeep hscan hkind
  obtain ⟨hgap, -⟩ := Lexer.skipWhitespace_eq l.newlineBefore h.cursor.started
  rw [hskip] at hgap
  simp only at hgap
  have hblank : isWhitespace ch = false := by
    have hhalt := hgap.any_head?
    rw [Cursor.text_of_scalar hcur] at hhalt
    exact hhalt
  obtain ⟨⟨passed, hne, hpass⟩, hfits⟩ := Lexer.scanAt_ok hcur hfound
  obtain ⟨text, rfl⟩ := hpass.exists_eq_cons hcur hne
  have hplain := Lexer.not_script_of_scanAt hcur hfound hpass
  have hstop : (Lexer.tokenOf lexeme c.index newline c').stop = c'.index :=
    Lexer.stop_tokenOf hpass.spells.start_le newline
  have hpart' : part.contents = (ch :: text).utf8Encode := by
    rw [hpart, hstop]
    exact ((h.cursor.of_passes hgap).spells hpass).extract_eq
  have hready := Lexer.ready_ofSource part config
  have htext : Utf8.textFrom part.contents 0 = ch :: text := by
    rw [hpart', Utf8.textFrom_utf8Encode]
  have hcur' := (Lexer.passes_begun hready).started.current_of_text_cons
    ((Lexer.text_begun part config).trans htext)
  obtain ⟨lexeme', d, hagain, rfl, hlen, hend⟩ :=
    Lexer.exists_scanAt_begun hgap.started hfound hpass hpart' config
  refine ⟨_, Lexer.diagnostics_accept h.tracks
    (h.reported.mono (h.cursor.spells hgap).start_le) hfits, ?_, ?_, ?_⟩
  · intro d hd
    exact h.reported.mono (h.cursor.spells hgap).start_le d (Array.mem_toList_iff.1 hd)
  · rw [hstop]
    intro d hd
    obtain ⟨d, hproblem, rfl⟩ := List.mem_map.1 hd
    exact Lexer.span_of_mem_problems hfits d hproblem
  · have hsink : ((Lexer.ofSource part config).begun.accept lexeme' d).diagnostics.toList =
        (Lexer.problems lexeme').map (Diagnostic.located part) :=
      Lexer.diagnostics_accept hready.tracks nofun (Lexer.scanAt_ok hcur' hagain).2
    have hnext := Lexer.next_of_scanAt_begun hkeep' hblank hplain htext hagain
    refine repeats_of_next hnext (Lexer.phase_accept ..) rfl ?_ rfl ?_ ?_ ?_ ?_
    · simp only [Lexer.cursor_accept]
      exact hend
    · simp only [Token.placeless, Lexer.tokenOf, hlen]
      rfl
    · simp only [Lexer.cursor_accept]
      exact hlen
    · simp only [hsink, List.length_map]
      exact Lexer.length_problems_le lexeme'
    · simp only [hsink]
      exact Lexer.problems_shift lexeme' c.index l.source part

/-- The first line of a script is found again in its own bytes. -/
theorem repeats_of_script {l' : Lexer} (hscript : ['#', '!'] <+: Utf8.textFrom source.contents 0)
    (hnext : (Lexer.ofSource source config).next = (.ok t, l'))
    (hpart : part.contents = source.contents.extract t.offset t.stop) :
    l'.diagnostics.toList = [] ∧ (ofSource part config).Repeats t [] := by
  obtain ⟨c, hline, hfound⟩ := Lexer.next_ofSource_of_script config hscript
  cases hnext.symm.trans hfound
  refine ⟨rfl, ?_⟩
  generalize hrun : (Utf8.textFrom source.contents 0).takeWhile (!isLineTerminator ·) = line at *
  have hspells := (Lexer.ready_begun (Lexer.ready_ofSource source config)).cursor.spells hline
  rw [Lexer.index_begun] at hspells
  have hall : Utf8.textFrom part.contents 0 = line := by
    have hbytes : source.contents.extract 0 c.index = line.utf8Encode := hspells.extract_eq
    rw [hpart, Lexer.stop_tokenOf (Nat.zero_le _) false]
    show Utf8.textFrom (source.contents.extract 0 c.index) 0 = line
    rw [hbytes, Utf8.textFrom_utf8Encode]
  have hscript' : ['#', '!'] <+: Utf8.textFrom part.contents 0 := by
    obtain ⟨rest, hrest⟩ := hscript
    rw [hall, ← hrun, ← hrest]
    exact ⟨_, rfl⟩
  obtain ⟨d, hline', hfound'⟩ := Lexer.next_ofSource_of_script config hscript'
  rw [hall, ← hrun, List.takeWhile_idem, hrun] at hline'
  have hend : d.text = [] :=
    hline'.text_eq_of_append (((Lexer.text_begun part config).trans hall).trans
      (List.append_nil line).symm)
  have hlen : c.index = d.index := by
    rw [hline.index_eq, hline'.index_eq, Lexer.index_begun, Lexer.index_begun]
  have hsame : (Lexer.tokenOf { kind := .hashbang } 0 false d).placeless =
      (Lexer.tokenOf { kind := .hashbang } 0 false c).placeless := by
    rw [Token.placeless, Token.placeless, Lexer.tokenOf, Lexer.tokenOf, hlen]
  exact repeats_of_next hfound' rfl rfl hend rfl hsame hlen.symm (Nat.zero_le _) rfl

end LexedFile

theorem filter_between {before inside behind : List Diagnostic} {start stop : Nat}
    (hbefore : ∀ d ∈ before, d.span.start < start)
    (hinside : ∀ d ∈ inside, start ≤ d.span.start ∧ d.span.start < stop)
    (hbehind : ∀ d ∈ behind, stop ≤ d.span.start) :
    ((before ++ inside ++ behind).filter fun d => start ≤ d.span.start ∧ d.span.start < stop) =
      inside := by
  have hfirst : (before.filter fun d => start ≤ d.span.start ∧ d.span.start < stop) = [] := by
    rw [List.filter_eq_nil_iff]
    intro d hd
    have := hbefore d hd
    simp only [decide_eq_true_eq]
    omega
  have hlast : (behind.filter fun d => start ≤ d.span.start ∧ d.span.start < stop) = [] := by
    rw [List.filter_eq_nil_iff]
    intro d hd
    have := hbehind d hd
    simp only [decide_eq_true_eq]
    omega
  have hself : (inside.filter fun d => start ≤ d.span.start ∧ d.span.start < stop) = inside := by
    rw [List.filter_eq_self]
    intro d hd
    exact decide_eq_true (hinside d hd)
  rw [List.filter_append, List.filter_append, hfirst, hlast, hself, List.nil_append,
    List.append_nil]

/-- The bytes of a token alone have the same token and then the end, if comments are kept. What has
been reported of the token is reported again. -/
theorem ofSource_part (source : Source) (config : LexerConfig) (hkeep : config.keepComments = true)
    (t : Token) (ht : t ∈ (LexedFile.ofSource source config).tokens)
    (hkind : t.kind ≠ .endOfInput) (part : Source)
    (hpart : part.contents = source.contents.extract t.offset t.stop) :
    (LexedFile.ofSource part config).Repeats t
      ((Lexer.ofSource source config).rest.2.2.diagnostics.toList.filter
        fun d => t.offset ≤ d.span.start ∧ d.span.start < t.stop) := by
  obtain ⟨before, after, hreturns⟩ :=
    Lexer.exists_returns (Lexer.ready_ofSource source config) nofun ht hkind
  obtain ⟨later, hsink, hlater⟩ := hreturns.later
  have hbytes : before.source.contents = source.contents :=
    congrArg Source.contents hreturns.source_eq
  have hfound : ∃ ds, after.diagnostics.toList = before.diagnostics.toList ++ ds ∧
      (∀ d ∈ before.diagnostics.toList, d.span.start < t.offset) ∧
      (∀ d ∈ ds, t.offset ≤ d.span.start ∧ d.span.start < t.stop) ∧
      (LexedFile.ofSource part config).Repeats t ds := by
    obtain rfl | hphase := hreturns.begins
    · by_cases hscript : ['#', '!'] <+: Utf8.textFrom source.contents 0
      · obtain ⟨hnothing, hrepeats⟩ :=
          LexedFile.repeats_of_script hscript hreturns.next_eq hpart
        exact ⟨[], hnothing, List.forall_mem_nil _, List.forall_mem_nil _, hrepeats⟩
      · have hnext := hreturns.next_eq
        rw [Lexer.next_ofSource config hscript, Lexer.next_of_scanning rfl] at hnext
        have hrepeats := LexedFile.repeats_of_scan (Lexer.ready_begun hreturns.ready) hkeep hkeep
          hnext hkind hpart
        exact hrepeats
    · have hnext := hreturns.next_eq
      rw [Lexer.next_of_scanning hphase] at hnext
      rw [← hbytes] at hpart
      exact LexedFile.repeats_of_scan hreturns.ready (hreturns.config_eq ▸ hkeep) hkeep hnext hkind
        hpart
  obtain ⟨ds, hds, hearlier, hinside, hrepeats⟩ := hfound
  rw [hsink, hds, filter_between hearlier hinside hlater]
  exact hrepeats

/-- A name and a character that no token begins with, in front of an operator. -/
def reference : Source := ⟨"reference", "law§?.x".toUTF8, 0, by decide⟩

def sectionSign : Source := ⟨"sign", "§".toUTF8, 1, by decide⟩

theorem ofSource_part_sectionSign :
    ∃ t ∈ (LexedFile.ofSource reference {}).tokens, t.kind = .syntaxError ∧
      t.offset = 3 ∧ t.len = 2 ∧
      (LexedFile.ofSource sectionSign {}).Repeats t
        ((Lexer.ofSource reference {}).rest.2.2.diagnostics.toList.filter
          fun d => t.offset ≤ d.span.start ∧ d.span.start < t.stop) := by
  let sign : Token := { kind := .syntaxError, offset := 3, len := 2 }
  have hmem : sign ∈ (LexedFile.ofSource reference {}).tokens := by decide +kernel
  exact ⟨sign, hmem, rfl, rfl, rfl, ofSource_part reference {} rfl sign hmem nofun sectionSign rfl⟩

end Lexis
