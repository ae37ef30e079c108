import Lexis.Proofs.Beside.Token
import Lexis.Proofs.Lexer.Steps

/-!
# Lexers beside each other

Two lexers in front of the same text find the same tokens in it, at the offsets where it stands in
the one source and in the other. The second one may have whitespace in front of it, and a detached
text behind it where the first one comes to its end (`scan_beside`).
-/

namespace Lexis

open CharClass

/-- The token at a place further on, with a line terminator before it if `newline` says so. -/
def Token.moved (t : Token) (n : Nat) (newline : Bool) : Token :=
  { t.shift n with flags := t.flags.union { newlineBefore := newline } }

theorem TokenFlags.union_union (flags : TokenFlags) (a b : Bool) :
    (flags.union { newlineBefore := a }).union { newlineBefore := b } =
      flags.union { newlineBefore := a || b } := by
  simp only [union, Bool.or_false, Bool.or_assoc]

theorem Token.moved_false (t : Token) (n : Nat) : t.moved n false = t.shift n := by
  simp only [moved, TokenFlags.union, Bool.or_false, shift]

namespace Lexer

/-! ## What the lexers come to -/

/-- From the offset on there is nothing but a line comment that no line terminator ends. -/
def OpenComment (bytes : ByteArray) (start : Nat) : Prop :=
  ['/', '/'] <+: Utf8.textFrom bytes start ∧
    ∀ ch ∈ Utf8.textFrom bytes start, isLineTerminator ch = false

/-- No line comment in the gap behind the offset goes on into `y`. -/
def Closes (y : List Char) (bytes : ByteArray) (offset : Nat) : Prop :=
  y.head?.all isLineTerminator = true ∨
    ∀ start, Gap bytes false offset start → ¬ OpenComment bytes start

/-- The lexers are in front of the same text, the second one with a gap before it and with `y`
behind it. Its offsets are greater by `k`, and there is a line terminator before the text if
`newline` says so. -/
structure Beside (k : Nat) (newline : Bool) (y gap u : List Char) (l m : Lexer) : Prop where
  ready : l.Ready
  ready' : m.Ready
  phase : l.phase = .scanning
  phase' : m.phase = .scanning
  config_eq : m.config = l.config
  detached : Detached y
  index_eq : l.cursor.index + k = m.cursor.index + Utf8.size gap
  text_eq : l.cursor.text = u
  text_eq' : m.cursor.text = gap ++ (u ++ y)
  blank : ∀ ch ∈ gap, isWhitespace ch = true
  newline_eq : (m.newlineBefore || gap.any isLineTerminator) = (l.newlineBefore || newline)

/-- What the first lexer has found on its way, the second one has found further on. -/
structure Progress (k : Nat) (l l' m m' : Lexer) : Prop where
  source_eq : l'.source = l.source
  source_eq' : m'.source = m.source
  config_eq : l'.config = l.config
  diagnostics : ∃ ds ds', l'.diagnostics.toList = l.diagnostics.toList ++ ds ∧
    m'.diagnostics.toList = m.diagnostics.toList ++ ds' ∧
    ds'.map Diagnostic.unlocated = ds.map fun d => (d.shift k).unlocated
  pragmas : ∃ found, l'.pragmas = l.pragmas.update found ∧
    m'.pragmas = m.pragmas.update (found.shift k)

variable {k : Nat} {newline : Bool} {y gap u : List Char} {l l' l'' m m' m'' : Lexer}

theorem Progress.refl (k : Nat) (l m : Lexer) : Progress k l l m m where
  source_eq := rfl
  source_eq' := rfl
  config_eq := rfl
  diagnostics := ⟨[], [], (List.append_nil _).symm, (List.append_nil _).symm, rfl⟩
  pragmas := ⟨{}, rfl, rfl⟩

theorem Progress.trans (h : Progress k l l' m m') (h' : Progress k l' l'' m' m'') :
    Progress k l l'' m m'' := by
  obtain ⟨ds, ds', hds, hds', hsame⟩ := h.diagnostics
  obtain ⟨more, more', hmore, hmore', hsame'⟩ := h'.diagnostics
  obtain ⟨p, hp, hp'⟩ := h.pragmas
  obtain ⟨q, hq, hq'⟩ := h'.pragmas
  refine ⟨h'.source_eq.trans h.source_eq, h'.source_eq'.trans h.source_eq',
    h'.config_eq.trans h.config_eq,
    ⟨ds ++ more, ds' ++ more', ?_, ?_, ?_⟩, p.update q, ?_, ?_⟩
  · rw [hmore, hds, List.append_assoc]
  · rw [hmore', hds', List.append_assoc]
  · rw [List.map_append, List.map_append, hsame, hsame']
  · rw [hq, hp, Pragmas.update_assoc]
  · rw [hq', hp', Pragmas.update_assoc, Pragmas.shift_update]

/-- What a call of the second lexer comes to where the first one has come to a result. -/
inductive CallsBeside (k : Nat) (newline : Bool) (y : List Char) (l m : Lexer) :
    Except Stop Token × Lexer → Except Stop Token × Lexer → Prop
  | token {t : Token} {l' m' : Lexer} {u : List Char} (kind_ne : t.kind ≠ .endOfInput)
      (beside : Beside k false y [] u l' m') (progress : Progress k l l' m m') :
      CallsBeside k newline y l m (.ok t, l') (.ok (t.moved k newline), m')
  /-- The second lexer goes on in front of `y`. -/
  | finish {l₁ m₁ : Lexer} {gap : List Char} (beside : Beside k newline y gap [] l₁ m₁)
      (progress : Progress k l l₁ m m₁) : CallsBeside k newline y l m
        (.ok (tokenOf { kind := .endOfInput } l₁.cursor.index l₁.newlineBefore l₁.cursor),
          { l₁ with newlineBefore := false, phase := .finished })
        (m₁.scan.1.mapError .fatal, m₁.scan.2)
  | abort {e : LexError} {l' : Lexer} {found : Except Stop Token × Lexer}
      (finished : l'.phase = .finished) (behind : y = [] → ∃ m',
        found = (.error (.fatal (e.shift k)), m') ∧ m'.phase = .finished ∧ Progress k l l' m m') :
      CallsBeside k newline y l m (.error (.fatal e), l') found

/-- What has been skipped in front of the calls does not matter. -/
theorem CallsBeside.after {l₁ m₁ : Lexer} {found found' : Except Stop Token × Lexer}
    (h : Progress k l l₁ m m₁) (hrest : CallsBeside k newline y l₁ m₁ found found') :
    CallsBeside k newline y l m found found' := by
  cases hrest with
  | token kind_ne beside progress => exact .token kind_ne beside (h.trans progress)
  | finish beside progress => exact .finish beside (h.trans progress)
  | abort finished behind =>
    refine .abort finished fun hy => ?_
    obtain ⟨m', hfound, hfinished, hprogress⟩ := behind hy
    exact ⟨m', hfound, hfinished, h.trans hprogress⟩

/-! ## Scans -/

theorem moved_tokenOf (lexeme : Lexeme) (start k : Nat) (found newline : Bool) (c : Cursor) :
    (tokenOf lexeme start found c).moved k newline =
      { kind := lexeme.kind
        offset := start + k
        len := c.index + k - (start + k)
        flags := lexeme.flags.union { newlineBefore := found || newline }
        value? := lexeme.value? } := by
  rw [Token.moved, tokenOf, Token.shift, Nat.add_sub_add_right]
  simp only [TokenFlags.union_union]

section Behind

variable {c c' d d' : Cursor} {ch : Char} {t : List Char} {lexeme lexeme' : Lexeme}

/-- Whitespace is skipped up to the same code point. -/
theorem Beside.skip {newline' : Bool} (h : Beside k newline y gap u l m)
    (hskip : skipWhitespace l.newlineBefore l.cursor = (newline', c))
    (hcur : c.current = .scalar ch) : ∃ blank t d,
      skipWhitespace m.newlineBefore m.cursor = (newline' || newline, d) ∧
        l.cursor.Passes blank c ∧ m.cursor.Passes (gap ++ blank) d ∧
        (∀ ch ∈ blank, isWhitespace ch = true) ∧ Scanner.Beside 0 k [] y (ch :: t) c d := by
  obtain ⟨hpass, hnewline⟩ := skipWhitespace_eq l.newlineBefore h.ready.cursor.started
  obtain ⟨hpass', hnewline'⟩ := skipWhitespace_eq m.newlineBefore h.ready'.cursor.started
  rw [hskip] at hpass hnewline
  have hhalt := hpass.any_head?
  rw [h.text_eq] at hpass hnewline
  generalize hblank : u.takeWhile isWhitespace = blank at hpass hnewline
  have hall : ∀ ch ∈ blank, isWhitespace ch = true := by
    intro d hd
    rw [← hblank] at hd
    exact List.all_eq_true.1 List.all_takeWhile d hd
  have hu : u = blank ++ ch :: c.upcoming := by
    rw [← h.text_eq, hpass.text_eq, Cursor.text_of_scalar hcur]
  have htext' : m.cursor.text = (gap ++ blank) ++ ch :: (c.upcoming ++ y) := by
    rw [h.text_eq', hu]
    simp only [List.append_assoc, List.cons_append]
  have hrun : m.cursor.text.takeWhile isWhitespace = gap ++ blank := by
    rw [Cursor.text_of_scalar hcur] at hhalt
    have hfirst : ¬ isWhitespace ch = true := ne_true_of_eq_false hhalt
    rw [htext', List.takeWhile_append_of_pos, List.takeWhile_cons_of_neg hfirst, List.append_nil]
    intro d hd
    exact (List.mem_append.1 hd).elim (h.blank d) (hall d)
  rw [hrun] at hpass' hnewline'
  refine ⟨blank, c.upcoming, _, Prod.ext ?_ rfl, hpass, hpass', hall, h.detached, hpass.started,
    hpass'.started, ?_, ?_, hpass'.text_eq_of_append htext'⟩
  · show (skipWhitespace m.newlineBefore m.cursor).1 = (newline' || newline)
    have hfound : newline' = (l.newlineBefore || blank.any isLineTerminator) := hnewline
    rw [hnewline', List.any_append, ← Bool.or_assoc, h.newline_eq, hfound, Bool.or_right_comm]
  · rw [hpass.index_eq, hpass'.index_eq, Utf8.size_append, Nat.add_right_comm, h.index_eq,
      Nat.add_assoc, Nat.add_zero]
  · rw [Cursor.text_of_scalar hcur, List.append_nil]

/-- Behind a lexeme a lexer is ready again. -/
theorem ready_accept (h : l.Ready) (hphase : l.phase = .scanning)
    (hgap : l.cursor.Passes gap c) (hcur : c.current = .scalar ch)
    (hscan : scanAt c ch = .ok lexeme c') (newline : Bool) :
    ({ l.accept lexeme c' with newlineBefore := newline } : Lexer).Ready := by
  obtain ⟨⟨passed, hne, hpass⟩, hfits⟩ := scanAt_ok hcur hscan
  have hat := h.cursor.of_passes hgap
  have hcall := call_accept h.tracks (h.reported.mono (h.cursor.spells hgap).start_le)
    (hat.of_passes hpass) (hat.spells hpass) hne hfits hphase false newline
  cases hcall with
  | token hready => exact hready
  | finish _ hkind => exact absurd hkind hfits.kind_ne

/-- A lexeme that both lexers have found takes them along. -/
theorem progress_accept (h : l.Ready) (h' : m.Ready) (hgap : l.cursor.Passes gap c)
    {gap' : List Char} (hgap' : m.cursor.Passes gap' d)
    (hfits : lexeme.Fits c.index c'.index) (hfits' : (lexeme.shift k).Fits d.index d'.index)
    (newline newline' : Bool) :
    Progress k l { l.accept lexeme c' with newlineBefore := newline } m
      { m.accept (lexeme.shift k) d' with newlineBefore := newline' } where
  source_eq := source_accept ..
  source_eq' := source_accept ..
  config_eq := config_accept ..
  diagnostics := by
    refine ⟨_, _, diagnostics_accept h.tracks
      (h.reported.mono (h.cursor.spells hgap).start_le) hfits, diagnostics_accept h'.tracks
      (h'.reported.mono (h'.cursor.spells hgap').start_le) hfits', ?_⟩
    simp only [problems, Lexeme.shift]
    cases lexeme.problem? with
    | none => rfl
    | some problem =>
      exact congrArg (fun d => [d])
        (Diagnostic.unlocated_located_shift problem.diagnostic l.source m.source k)
  pragmas := ⟨lexeme.pragmas, pragmas_accept .., pragmas_accept ..⟩

/-- No line comment that begins behind whitespace goes on into `y`. -/
theorem Closes.all_head? {blank t : List Char} {doc : Bool}
    (h : Closes y l.source.contents l.cursor.index) (hat : At l.source l.cursor)
    (hgap : l.cursor.Passes blank c) (hblank : ∀ ch ∈ blank, isWhitespace ch = true)
    (htext : c.text = ch :: t) (hopening : Opening.of ch (t.take 3) = .lineComment doc)
    (hopen : ∀ ch ∈ t, isLineTerminator ch = false) : y.head?.all isLineTerminator = true := by
  obtain hy | hclosed := h
  · exact hy
  · have htells := Opening.tells_of ch (t.take 3)
    rw [hopening] at htells
    obtain ⟨rfl, rest, hrest⟩ := htells
    cases t with
    | nil => cases hrest
    | cons second t =>
      obtain rfl : second = '/' := (List.cons.inj hrest).1
      refine absurd ?_ (hclosed c.index (.of_spells (hat.spells hgap) hblank))
      rw [OpenComment, ← (hat.of_passes hgap).text_eq, htext, List.forall_mem_cons]
      exact ⟨⟨t, rfl⟩, rfl, hopen⟩

theorem Closes.of_gap {start stop : Nat} {bytes : ByteArray} (h : Closes y bytes start)
    (hgap : Gap bytes false start stop) : Closes y bytes stop :=
  h.imp_right fun hclosed _ hrest => hclosed _ (hgap.append hrest)

/-- Behind the same lexeme the lexers are beside each other again. -/
theorem Beside.accept {blank t : List Char} (h : Beside k newline y gap u l m)
    (hcloses : Closes y l.source.contents l.cursor.index) (hgap : l.cursor.Passes blank c)
    (hgap' : m.cursor.Passes (gap ++ blank) d) (hblank : ∀ ch ∈ blank, isWhitespace ch = true)
    (hbeside : Scanner.Beside 0 k [] y (ch :: t) c d) (hscan : scanAt c ch = .ok lexeme c') :
    ∃ d' u', scanAt d ch = .ok (lexeme.shift k) d' ∧ ∀ found newline',
      Beside k newline' y [] u' { l.accept lexeme c' with newlineBefore := found }
          { m.accept (lexeme.shift k) d' with newlineBefore := found || newline' } ∧
        Progress k l { l.accept lexeme c' with newlineBefore := found } m
          { m.accept (lexeme.shift k) d' with newlineBefore := found || newline' } := by
  have hcur := hbeside.started.current_of_text_cons hbeside.text_eq
  have hcur' := hbeside.started'.current_of_text_cons hbeside.text_eq'
  have htext := hbeside.text_eq.trans (List.append_nil _)
  have hagree := agree_scanAt hbeside fun doc hopening hopen =>
    hcloses.all_head? h.ready.cursor hgap hblank htext hopening hopen
  rw [hscan] at hagree
  obtain ⟨lexeme', d', hscan', hsame, hbehind⟩ := hagree c'.text (List.append_nil _).symm
  obtain rfl : lexeme.shift k = lexeme' := hsame.trans (Lexeme.shift_zero _)
  refine ⟨d', c'.text, hscan', ?_⟩
  intro found newline'
  constructor
  · exact {
      ready := ready_accept h.ready h.phase hgap hcur hscan found
      ready' := ready_accept h.ready' h.phase' hgap' hcur' hscan' (found || newline')
      phase := (phase_accept ..).trans h.phase
      phase' := (phase_accept ..).trans h.phase'
      config_eq := ((config_accept ..).trans h.config_eq).trans (config_accept ..).symm
      detached := h.detached
      index_eq := by
        simp only [cursor_accept]
        exact hbehind.index_eq
      text_eq := by simp only [cursor_accept]
      text_eq' := by
        simp only [cursor_accept]
        exact hbehind.text_eq'
      blank := List.forall_mem_nil _
      newline_eq := Bool.or_false _ }
  · exact progress_accept h.ready h.ready' hgap hgap' (scanAt_ok hcur hscan).2
      (scanAt_ok hcur' hscan').2 _ _

/-- The first lexer has come to its end, and the whitespace that it has skipped is still in front of
the second one. -/
theorem Beside.finish {found : Bool} (h : Beside k newline y gap u l m)
    (hskip : skipWhitespace l.newlineBefore l.cursor = (found, c))
    (hnot : ∀ ch, c.current ≠ .scalar ch) :
    Beside k newline y (gap ++ u) [] { l with cursor := c, newlineBefore := found } m := by
  obtain ⟨hpass, hfound⟩ := skipWhitespace_eq l.newlineBefore h.ready.cursor.started
  rw [hskip, h.text_eq] at hpass hfound
  have hend : c.text = [] := hpass.started.text_of_not_scalar hnot
  have hall : u.takeWhile isWhitespace = u := by
    have htext := hpass.text_eq
    rw [h.text_eq, hend, List.append_nil] at htext
    exact htext.symm
  rw [hall] at hpass hfound
  simp only at hpass hfound
  exact {
    ready := ⟨h.ready.cursor.of_passes hpass, h.ready.tracks,
      h.ready.reported.mono (h.ready.cursor.spells hpass).start_le⟩
    ready' := h.ready'
    phase := h.phase
    phase' := h.phase'
    config_eq := h.config_eq
    detached := h.detached
    index_eq := by
      show c.index + k = _
      rw [hpass.index_eq, Utf8.size_append, Nat.add_right_comm, h.index_eq, Nat.add_assoc]
    text_eq := hend
    text_eq' := by rw [h.text_eq', List.append_assoc, List.nil_append]
    blank := by
      intro ch hch
      obtain hch | hch := List.mem_append.1 hch
      · exact h.blank ch hch
      · rw [← hall] at hch
        exact List.all_eq_true.1 List.all_takeWhile ch hch
    newline_eq := by
      show _ = (found || newline)
      rw [hfound, List.any_append, ← Bool.or_assoc, h.newline_eq, Bool.or_right_comm] }

/-- An error that both lexers have found ends both scans. -/
theorem progress_abort {start : Nat} {e : LexError} (h : l.tracker.Tracks l.source)
    (h' : m.tracker.Tracks m.source) (hreported : l.ReportedBefore start)
    (hreported' : m.ReportedBefore (start + k))
    (hlies : e.LiesIn start (Utf8.textFrom l.source.contents start))
    (hlies' : (e.shift k).LiesIn (start + k) (Utf8.textFrom m.source.contents (start + k)))
    (c d : Cursor) (found found' : Bool) :
    Progress k l ({ l with cursor := c, newlineBefore := found }.abort start e) m
      ({ m with cursor := d, newlineBefore := found' }.abort (start + k) (e.shift k)) where
  source_eq := source_report ..
  source_eq' := source_report ..
  config_eq := config_report ..
  diagnostics := by
    let before : Lexer := { l with cursor := c, newlineBefore := found }
    let before' : Lexer := { m with cursor := d, newlineBefore := found' }
    obtain ⟨-, hds⟩ := diagnostics_abort (l := before) h hreported hlies
    obtain ⟨-, hds'⟩ := diagnostics_abort (l := before') h' hreported' hlies'
    refine ⟨_, _, hds, hds', ?_⟩
    rw [← LexError.shift_diagnostic]
    exact congrArg (fun d => [d])
      (Diagnostic.unlocated_located_shift (e.diagnostic start) l.source m.source k)
  pragmas := ⟨{}, pragmas_report .., pragmas_report ..⟩

/-- If nothing is behind the text that they share, the lexers break off alike. -/
theorem Beside.scan_error {found : Bool} {e : LexError} (h : Beside k newline [] gap u l m)
    (hskip : skipWhitespace l.newlineBefore l.cursor = (found, c)) (hcur : c.current = .scalar ch)
    (hscan : scanAt c ch = .error e c') :
    ∃ m', m.scan = (.error (e.shift k), m') ∧ m'.phase = .finished ∧
      Progress k l ({ l with cursor := c', newlineBefore := found }.abort c.index e) m m' := by
  obtain ⟨blank, t, d, hskip', hgap, hgap', hblank, hbeside⟩ := h.skip hskip hcur
  have hcur' := hbeside.started'.current_of_text_cons hbeside.text_eq'
  have hagree := agree_scanAt hbeside fun _ _ _ => rfl
  rw [hscan] at hagree
  obtain ⟨e', d', hscan', he⟩ := hagree rfl rfl
  obtain rfl : e.shift k = e' := he
  have hindex : c.index + k = d.index := hbeside.index_eq
  have hlies := scanAt_error hcur hscan
  have hlies' := scanAt_error hcur' hscan'
  rw [(h.ready.cursor.of_passes hgap).text_eq] at hlies
  rw [(h.ready'.cursor.of_passes hgap').text_eq, ← hindex] at hlies'
  have hreported := h.ready.reported.mono (h.ready.cursor.spells hgap).start_le
  have hreported' := h.ready'.reported.mono (h.ready'.cursor.spells hgap').start_le
  rw [scan_of_error hskip' hcur' hscan', ← hindex]
  exact ⟨_, rfl, phase_report .., progress_abort h.ready.tracks h.ready'.tracks hreported
    (hindex ▸ hreported') hlies hlies' ..⟩

end Behind

/-- The next token of the one lexer is the next token of the other, further on. -/
theorem scan_beside (h : Beside k newline y gap u l m)
    (hcloses : Closes y l.source.contents l.cursor.index) :
    CallsBeside k newline y l m (l.scan.1.mapError .fatal, l.scan.2)
      (m.scan.1.mapError .fatal, m.scan.2) := by
  fun_induction scan l generalizing m gap u newline with
  | case1 l found c hskip ch hcur e c' hscan =>
    refine .abort (phase_report ..) ?_
    rintro rfl
    obtain ⟨m', hscan', hbehind⟩ := h.scan_error hskip hcur hscan
    rw [hscan']
    exact ⟨m', rfl, hbehind⟩
  | case2 l found c hskip ch hcur lexeme c' hscan hlt hcomment ih =>
    obtain ⟨blank, t, d, hskip', hgap, hgap', hblank, hbeside⟩ := h.skip hskip hcur
    obtain ⟨d', u', hscan', haccept⟩ := h.accept hcloses hgap hgap' hblank hbeside hscan
    have hcur' := hbeside.started'.current_of_text_cons hbeside.text_eq'
    obtain ⟨hnext, hprogress⟩ := haccept (found || lexeme.crossesLine) newline
    rw [scan_of_comment hskip' hcur' hscan' (by rw [h.config_eq]; exact hcomment)]
    refine .after hprogress ?_
    rw [Bool.or_right_comm] at hnext ⊢
    have hskipped : CommentAt l.source.contents c.index c'.index :=
      ⟨c, ch, lexeme, c', (h.ready.cursor.of_passes hgap).bytes_eq, rfl, hcur, hscan,
        (Bool.and_eq_true_iff.1 hcomment).1, rfl⟩
    have hbefore : Gap l.source.contents false l.cursor.index c.index :=
      .of_spells (h.ready.cursor.spells hgap) hblank
    refine ih hnext ?_
    rw [cursor_accept, source_accept]
    exact hcloses.of_gap (hbefore.append (.comment rfl hskipped (.refl _)))
  | case3 l found c hskip ch hcur lexeme c' hscan hlt hcomment =>
    obtain ⟨blank, t, d, hskip', hgap, hgap', hblank, hbeside⟩ := h.skip hskip hcur
    obtain ⟨d', u', hscan', haccept⟩ := h.accept hcloses hgap hgap' hblank hbeside hscan
    have hcur' := hbeside.started'.current_of_text_cons hbeside.text_eq'
    obtain ⟨hnext, hprogress⟩ := haccept false false
    have hwanted : ((lexeme.shift k).kind.isComment && !m.config.keepComments) = false := by
      rw [h.config_eq]
      exact eq_false_of_ne_true hcomment
    obtain ⟨⟨passed, -, hpass⟩, -⟩ := scanAt_ok hcur hscan
    have hindex : c.index + k = d.index := hbeside.index_eq
    have hindex' : c'.index + k = d'.index := by
      have hbehind := hnext.index_eq
      simp only [cursor_accept] at hbehind
      exact hbehind
    have htoken : tokenOf (lexeme.shift k) d.index (found || newline) d' =
        (tokenOf lexeme c.index found c').moved k newline := by
      rw [moved_tokenOf, hindex, hindex']
      rfl
    rw [scan_of_token hskip' hcur' hscan' hwanted, htoken]
    exact .token (scanAt_ok hcur hscan).2.kind_ne hnext hprogress
  | case4 l found c hskip hnot =>
    have hprogress : Progress k l { l with cursor := c, newlineBefore := found } m m := {
      source_eq := rfl
      source_eq' := rfl
      config_eq := rfl
      diagnostics := ⟨[], [], (List.append_nil _).symm, (List.append_nil _).symm, rfl⟩
      pragmas := ⟨{}, rfl, rfl⟩ }
    exact .finish (h.finish hskip hnot) hprogress

end Lexer

end Lexis
