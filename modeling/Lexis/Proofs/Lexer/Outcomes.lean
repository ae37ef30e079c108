import Lexis.Proofs.Beside.Calls
import Lexis.Proofs.Lexer.Origin

/-!
# What the steps of a run come to

A step of a driven run skips a gap, as far as it goes (`GapEnds`), and where that ends it has a
single scan to do: of the token that begins there, or of the template that goes on there
(`Lexer.Outcome`). Where a gap ends is determined (`Gap.unique`), so that what all outcomes have in
common can be said of every step, with the place that it is about (`Lexer.stepwise_ofSource`).
-/

namespace Lexis

open CharClass

open Scanner (templateContinuation)

/-! ## Where gaps end -/

/-- Neither whitespace begins at the offset nor a comment that is skipped. -/
structure GapEnds (bytes : ByteArray) (keepComments : Bool) (offset : Nat) : Prop where
  not_blank : ∀ ch, Utf8.charAt? bytes offset = some ch → isWhitespace ch = false
  not_comment : keepComments = false → ∀ stop, ¬ CommentAt bytes offset stop

namespace Lexer

variable {c c' d : Cursor} {ch : Char} {lexeme : Lexeme}

/-- What a scan finds depends on the place alone. -/
theorem scanAt_agree (hbytes : d.bytes = c.bytes) (hindex : d.index = c.index)
    (hcur : c.current = .scalar ch) (hcur' : d.current = .scalar ch)
    (hscan : scanAt c ch = .ok lexeme c') :
    ∃ lexeme' d', scanAt d ch = .ok lexeme' d' ∧ lexeme'.kind = lexeme.kind ∧
      d'.index = c'.index := by
  have htext : d.text = c.text := by rw [Cursor.text, Cursor.text, hbytes, hindex]
  have hupcoming := Cursor.text_of_scalar hcur
  have hbeside : Scanner.Beside 0 0 [] [] (ch :: c.upcoming) c d := {
    detached := .nil
    started := .of_scalar hcur
    started' := .of_scalar hcur'
    index_eq := congrArg (· + 0) hindex.symm
    text_eq := hupcoming.trans (List.append_nil _).symm
    text_eq' := htext.trans (hupcoming.trans (List.append_nil _).symm) }
  have hagree := agree_scanAt hbeside fun _ _ _ => rfl
  rw [hscan] at hagree
  obtain ⟨lexeme', d', hscan', hsame, hbeside'⟩ := hagree c'.text (List.append_nil _).symm
  exact ⟨lexeme', d', hscan', (congrArg Lexeme.kind hsame).symm, hbeside'.index_eq.symm⟩

end Lexer

section Gaps

variable {bytes : ByteArray} {keepComments : Bool} {start stop stop' : Nat}

theorem charAt?_of_current {c : Cursor} {ch : Char} (hcur : c.current = .scalar ch) :
    Utf8.charAt? c.bytes c.index = some ch := by
  have htext : Utf8.textFrom c.bytes c.index = ch :: c.upcoming := Cursor.text_of_scalar hcur
  rw [← Utf8.head?_textFrom, htext]
  rfl

theorem CommentAt.unique (h : CommentAt bytes start stop) (h' : CommentAt bytes start stop') :
    stop = stop' := by
  obtain ⟨c, ch, lexeme, c', rfl, rfl, hcur, hscan, -, rfl⟩ := h
  obtain ⟨d, ch', lexeme', d', hbytes, hindex, hcur', hscan', -, rfl⟩ := h'
  have hsame : Utf8.charAt? d.bytes d.index = some ch := by
    rw [hbytes, hindex]
    exact charAt?_of_current hcur
  obtain rfl : ch = ch' := Option.some.inj (hsame.symm.trans (charAt?_of_current hcur'))
  obtain ⟨lexeme'', d'', hscan'', -, hstop⟩ := Lexer.scanAt_agree hbytes hindex hcur hcur' hscan
  rw [hscan''] at hscan'
  cases hscan'
  exact hstop.symm

theorem Opening.eq_slash_of_isComment {ch : Char} {ahead : List Char} {kind : TokenKind}
    (hmakes : (Opening.of ch ahead).Makes kind) (hcomment : kind.isComment = true) : ch = '/' := by
  have hfound := Opening.found_of ch ahead
  obtain ⟨doc, hopening⟩ | ⟨legal, hopening⟩ := hmakes.eq_comment hcomment
  · rw [hopening] at hfound
    cases hfound
    rfl
  · rw [hopening] at hfound
    cases hfound
    rfl

/-- A comment begins with a slash. -/
theorem CommentAt.charAt? (h : CommentAt bytes start stop) :
    Utf8.charAt? bytes start = some '/' := by
  obtain ⟨c, ch, lexeme, c', rfl, rfl, hcur, hscan, hcomment, rfl⟩ := h
  obtain rfl := Opening.eq_slash_of_isComment (Lexer.makes_of_scanAt hscan) hcomment
  exact charAt?_of_current hcur

theorem Gap.unique (h : Gap bytes keepComments start stop) (h' : Gap bytes keepComments start stop')
    (hends : GapEnds bytes keepComments stop) (hends' : GapEnds bytes keepComments stop') :
    stop = stop' := by
  have hslash : isWhitespace '/' = false := by decide
  induction h with
  | refl offset =>
    cases h' with
    | refl => rfl
    | whitespace hch hblank => rw [hends.not_blank _ hch] at hblank; cases hblank
    | comment hkeep hcomment => exact absurd hcomment (hends.not_comment hkeep _)
  | whitespace hch hblank hrest ih =>
    cases h' with
    | refl => rw [hends'.not_blank _ hch] at hblank; cases hblank
    | whitespace hch' hblank' hrest' =>
      obtain rfl := Option.some.inj (hch.symm.trans hch')
      exact ih hrest' hends
    | comment hkeep hcomment =>
      obtain rfl := Option.some.inj (hch.symm.trans hcomment.charAt?)
      rw [hslash] at hblank
      cases hblank
  | comment hkeep hcomment hrest ih =>
    cases h' with
    | refl => exact absurd hcomment (hends'.not_comment hkeep _)
    | whitespace hch hblank =>
      obtain rfl := Option.some.inj (hch.symm.trans hcomment.charAt?)
      rw [hslash] at hblank
      cases hblank
    | comment _ hcomment' hrest' =>
      obtain rfl := hcomment.unique hcomment'
      exact ih hrest' hends

end Gaps

/-! ## Outcomes -/

namespace Lexer

variable {source : Source} {start : Nat} {l : Lexer} {c c' : Cursor} {ch : Char}
  {result : Except Stop Token}

/-- What a lexer makes of the result of a scan. -/
def resultOf (start : Nat) (newline : Bool) :
    EStateM.Result LexError Cursor Lexeme → Except Stop Token
  | .ok lexeme c => .ok (tokenOf lexeme start newline c)
  | .error e _ => .error (.fatal e)

theorem resultOf_eq_ok_iff {newline : Bool} {found : EStateM.Result LexError Cursor Lexeme}
    {t : Token} : resultOf start newline found = .ok t ↔
      ∃ lexeme c, found = .ok lexeme c ∧ t = tokenOf lexeme start newline c := by
  cases found <;> simp [resultOf, eq_comm]

theorem resultOf_eq_error_iff {newline : Bool} {found : EStateM.Result LexError Cursor Lexeme}
    {e : LexError} : resultOf start newline found = .error (.fatal e) ↔
      ∃ c, found = .error e c := by
  cases found <;> simp [resultOf]

/-- How a step of a run comes to its result where a token could begin at `start`. If the caller
chooses to go on with templates, no closing brace is returned. -/
inductive Outcome (source : Source) (again : Bool) (start : Nat) : Except Stop Token → Prop
  | finish {t : Token} (htext : Utf8.textFrom source.contents start = [])
      (hkind : t.kind = .endOfInput) : Outcome source again start (.ok t)
  | script {t : Token} (hbegins : ['#', '!'] <+: Utf8.textFrom source.contents start)
      (hkind : t.kind = .hashbang) : Outcome source again start (.ok t)
  | scan {c : Cursor} {ch : Char} (hat : At source c) (hindex : c.index = start)
      (hcur : c.current = .scalar ch) (newline : Bool)
      (hsettled : ∀ lexeme c', scanAt c ch = .ok lexeme c' → again = true →
        lexeme.kind ≠ .operator .closeBrace) :
      Outcome source again start (resultOf start newline (scanAt c ch))
  | rescan {c : Cursor} (hagain : again = true) (hat : At source c)
      (hbrace : Utf8.Spells source.contents start c.index ['\x7d']) (newline : Bool) :
      Outcome source again start
        (resultOf start newline (templateContinuation start { multiLine := true } c))

/-- Where a step of a lexer is about a place behind the gap. -/
def OutcomeOf (l : Lexer) (again : Bool) (result : Except Stop Token) : Prop :=
  ∃ start, Gap l.source.contents l.config.keepComments l.cursor.index start ∧
    GapEnds l.source.contents l.config.keepComments start ∧ Outcome l.source again start result

theorem Outcome.choose (h : Outcome source false start result) (again : Bool)
    (hresult : ∀ t, result = .ok t → again = true → t.kind ≠ .operator .closeBrace) :
    Outcome source again start result := by
  cases h with
  | finish htext hkind => exact .finish htext hkind
  | script hbegins hkind => exact .script hbegins hkind
  | scan hat hindex hcur newline =>
    refine .scan hat hindex hcur newline fun lexeme c' hscan hagain => ?_
    rw [hscan] at hresult
    exact hresult _ rfl hagain
  | rescan hagain => cases hagain

theorem Outcome.of_scan (hat : At source c) (hindex : c.index = start)
    (hcur : c.current = .scalar ch) (newline : Bool)
    (hresult : resultOf start newline (scanAt c ch) = result) :
    Outcome source false start result := by
  subst hresult
  exact .scan hat hindex hcur newline fun _ _ _ hagain => nomatch hagain

/-- A scan that finds no comment, or none to skip, begins where the gap ends. -/
theorem gapEnds_of_scanAt {keepComments : Bool} (hat : At source c) (hcur : c.current = .scalar ch)
    (hblank : isWhitespace ch = false)
    (hcomment : ∀ lexeme c', scanAt c ch = .ok lexeme c' → lexeme.kind.isComment = true →
      keepComments = true) : GapEnds source.contents keepComments c.index := by
  have hfirst := charAt?_of_current hcur
  rw [hat.bytes_eq] at hfirst
  constructor
  · intro d hd
    obtain rfl := Option.some.inj (hfirst.symm.trans hd)
    exact hblank
  · rintro hkeep stop ⟨d, d₀, lexeme, d', hbytes, hindex, hcur', hscan, hkind, -⟩
    have hfirst' := charAt?_of_current hcur'
    rw [hbytes, hindex] at hfirst'
    obtain rfl := Option.some.inj (hfirst.symm.trans hfirst')
    obtain ⟨lexeme', c', hscan', hkind', -⟩ :=
      scanAt_agree (hat.bytes_eq.trans hbytes.symm) hindex.symm hcur' hcur hscan
    rw [hcomment lexeme' c' hscan' (hkind' ▸ hkind)] at hkeep
    cases hkeep

theorem gapEnds_of_charAt? {bytes : ByteArray} {keepComments : Bool}
    (hch : Utf8.charAt? bytes start = some ch) (hblank : isWhitespace ch = false)
    (hslash : ch ≠ '/') : GapEnds bytes keepComments start := by
  constructor
  · intro d hd
    obtain rfl := Option.some.inj (hch.symm.trans hd)
    exact hblank
  · intro _ stop hcomment
    exact hslash (Option.some.inj (hch.symm.trans hcomment.charAt?))

theorem gapEnds_of_text_eq_nil {bytes : ByteArray} {keepComments : Bool}
    (htext : Utf8.textFrom bytes start = []) : GapEnds bytes keepComments start := by
  have hnone : Utf8.charAt? bytes start = none := by
    rw [← Utf8.head?_textFrom, htext]
    rfl
  constructor
  · intro ch hch
    rw [hnone] at hch
    cases hch
  · intro _ stop hcomment
    rw [hcomment.charAt?] at hnone
    cases hnone

theorem not_isWhitespace_of_skipWhitespace {newline newline' : Bool}
    (hskip : skipWhitespace newline c = (newline', c')) (hcur : c'.current = .scalar ch) :
    isWhitespace ch = false := by
  fun_induction skipWhitespace newline c with
  | case1 _ _ _ _ _ _ _ ih => exact ih hskip
  | case2 _ _ _ _ _ _ _ _ ih => exact ih hskip
  | case3 newline c d hcur' hlt _ hblank hspace =>
    cases hskip
    obtain rfl : d = ch := by simpa [hcur'] using hcur
    exact eq_false_of_ne_true hspace
  | case4 newline c hnot =>
    cases hskip
    exact absurd hcur (hnot ch)

/-- What is skipped before a scan is part of the gap. -/
theorem gap_of_skipWhitespace {newline newline' : Bool} (h : At source c)
    (hskip : skipWhitespace newline c = (newline', c')) (keepComments : Bool) :
    At source c' ∧ Gap source.contents keepComments c.index c'.index := by
  obtain ⟨gap, hgap, hblank⟩ := passes_skipWhitespace newline h.started
  rw [hskip] at hgap
  exact ⟨h.of_passes hgap, .of_spells (h.spells hgap) hblank⟩

theorem scan_outcome (h : At l.source l.cursor) :
    l.OutcomeOf false (l.scan.1.mapError .fatal) := by
  fun_induction scan l with
  | case1 l newline c hskip ch hcur e c' hscan =>
    obtain ⟨hat, hgap⟩ := gap_of_skipWhitespace h hskip l.config.keepComments
    refine ⟨c.index, hgap, ?_, .of_scan hat rfl hcur newline ?_⟩
    · refine gapEnds_of_scanAt hat hcur (not_isWhitespace_of_skipWhitespace hskip hcur) ?_
      intro lexeme c₁ hscan'
      cases hscan.symm.trans hscan'
    · rw [hscan]
      rfl
  | case2 l newline c hskip ch hcur lexeme c' hscan hlt hcomment ih =>
    obtain ⟨hat, hgap⟩ := gap_of_skipWhitespace h hskip l.config.keepComments
    obtain ⟨⟨passed, -, hpassed⟩, hfits⟩ := scanAt_ok hcur hscan
    obtain ⟨hkind, hkeep⟩ := Bool.and_eq_true_iff.1 hcomment
    rw [accept_of_none (problem?_eq_none_of_isComment hfits hkind)] at ih ⊢
    have hskipped : CommentAt l.source.contents c.index c'.index :=
      ⟨c, ch, lexeme, c', hat.bytes_eq, rfl, hcur, hscan, hkind, rfl⟩
    obtain ⟨start, hrest, hends, houtcome⟩ := ih (hat.of_passes hpassed)
    have hbehind := hrest.comment (by simpa using hkeep) hskipped
    exact ⟨start, hgap.append hbehind, hends, houtcome⟩
  | case3 l newline c hskip ch hcur lexeme c' hscan hlt hcomment =>
    obtain ⟨hat, hgap⟩ := gap_of_skipWhitespace h hskip l.config.keepComments
    refine ⟨c.index, hgap, ?_, .of_scan hat rfl hcur newline ?_⟩
    · refine gapEnds_of_scanAt hat hcur (not_isWhitespace_of_skipWhitespace hskip hcur) ?_
      rintro lexeme' c₁ hscan' hkind
      cases hscan.symm.trans hscan'
      simpa [hkind] using hcomment
    · rw [hscan]
      rfl
  | case4 l newline c hskip hnot =>
    obtain ⟨hat, hgap⟩ := gap_of_skipWhitespace h hskip l.config.keepComments
    have htext : Utf8.textFrom l.source.contents c.index = [] :=
      hat.text_eq.symm.trans (hat.started.text_of_not_scalar hnot)
    exact ⟨c.index, hgap, gapEnds_of_text_eq_nil htext, .finish htext rfl⟩

theorem next_outcome (h : At l.source l.cursor) (hphase : l.phase ≠ .finished) :
    l.OutcomeOf false (l.next.1.mapError .fatal) := by
  unfold next
  cases hp : l.phase with
  | finished => exact absurd hp hphase
  | scanning => exact scan_outcome h
  | start =>
    have hahead := Cursor.passes_startsWith h.started ['#', '!']
    have hindex : (l.cursor.startsWith ['#', '!']).2.index = l.cursor.index :=
      hahead.index_eq_of_nil
    let started : Lexer :=
      { l with cursor := (l.cursor.startsWith ['#', '!']).2, phase := .scanning }
    show l.OutcomeOf false (l.first.1.mapError .fatal)
    unfold first
    simp only
    split
    · rename_i hscript
      rw [Cursor.startsWith_fst h.started, h.text_eq, List.isPrefixOf_iff_prefix] at hscript
      obtain ⟨rest, hrest⟩ := hscript
      have hmark : Utf8.charAt? l.source.contents l.cursor.index = some '#' := by
        rw [← Utf8.head?_textFrom, ← hrest]
        rfl
      unfold scanHashbang
      exact ⟨l.cursor.index, .refl _, gapEnds_of_charAt? hmark (by decide) (by decide),
        .script ⟨rest, hrest⟩ rfl⟩
    · have houtcome : started.OutcomeOf false _ := scan_outcome (h.of_passes hahead)
      rw [OutcomeOf, hindex] at houtcome
      exact houtcome

/-- The choice is about a brace at the place of the step. -/
theorem Outcome.offset_eq {brace : Token} (h : Outcome source false start (.ok brace))
    (hkind : brace.kind = .operator .closeBrace) : brace.offset = start := by
  generalize hresult : Except.ok brace = result at h
  cases h with
  | finish _ hend =>
    cases hresult
    rw [hend] at hkind
    cases hkind
  | script _ hscript =>
    cases hresult
    rw [hscript] at hkind
    cases hkind
  | scan =>
    obtain ⟨lexeme, c', -, rfl⟩ := resultOf_eq_ok_iff.1 hresult.symm
    rfl
  | rescan hagain => cases hagain

theorem Call.source_of_ok {l' : Lexer} {t : Token} (h : Call l start (.ok t) l')
    (hkind : t.kind ≠ .endOfInput) : l'.source = l.source := by
  cases h with
  | token _ hsource => exact hsource
  | finish _ hend => exact absurd hend hkind

theorem drive_outcome (h : l.Ready) (hphase : l.phase ≠ .finished) (again : Bool) :
    l.OutcomeOf again (l.drive again).1 := by
  obtain ⟨start, hgap, hends, houtcome⟩ := next_outcome h.cursor hphase
  refine ⟨start, hgap, hends, ?_⟩
  have hdrive := l.drives again
  generalize l.drive again = found at hdrive ⊢
  cases hdrive with
  | @broken e l' hnext =>
    rw [hnext] at houtcome
    change Outcome l.source false start (.error (.fatal e)) at houtcome
    exact houtcome.choose again fun t ht => nomatch ht
  | @returned t l' hnext hstays =>
    rw [hnext] at houtcome
    change Outcome l.source false start (.ok t) at houtcome
    refine houtcome.choose again ?_
    rintro t' ⟨⟩
    exact hstays
  | @resumed brace l' hnext hagain hbrace =>
    rw [hnext] at houtcome
    change Outcome l.source false start (.ok brace) at houtcome
    obtain rfl := houtcome.offset_eq hbrace
    obtain ⟨start, -, hcall⟩ := next_call h hphase
    rw [hnext] at hcall
    obtain ⟨hready, hrunning, hbehind⟩ := behindBrace_of_next h hphase hnext hbrace
    change Call l start (.ok brace) l' at hcall
    have hspells := (origin_next h.cursor (congrArg Prod.fst hnext)).spells_operator hbrace
    rw [hbehind.stop_eq] at hspells
    have hresult : (l'.rescan brace).1 = resultOf brace.offset brace.flags.newlineBefore
        (templateContinuation brace.offset { multiLine := true } l'.cursor) := by
      rw [rescan_of_brace hrunning hbehind.kind_eq hbehind.stop_eq]
      cases templateContinuation brace.offset { multiLine := true } l'.cursor <;> rfl
    rw [hresult]
    exact .rescan hagain (hcall.source_of_ok (by rw [hbrace]; nofun) ▸ hready.cursor) hspells _

end Lexer

/-! ## All steps -/

/-- Every step of a run up to its end or an error has the property, which is about the choice of the
caller, the offset where the step begins and its result. -/
def Stepwise (p : Bool → Nat → Except Stop Token → Prop) :
    (offset : Nat) → List Bool → List (Except Stop Token) → Prop
  | _, [], [] => True
  | offset, again :: choices, result :: results =>
    p again offset result ∧
      ∀ t, result = .ok t → t.kind ≠ .endOfInput → Stepwise p t.stop choices results
  | _, _, _ => False

/-- What all outcomes have in common holds of every step. -/
theorem Lexer.stepwise_driven {l : Lexer} {p : Bool → Nat → Except Stop Token → Prop}
    (h : l.Ready) (hphase : l.phase ≠ .finished)
    (hstep : ∀ again offset start result,
      Gap l.source.contents l.config.keepComments offset start →
      GapEnds l.source.contents l.config.keepComments start →
      Outcome l.source again start result → p again offset result) (choices : List Bool) :
    Stepwise p l.cursor.index choices (l.driven choices).1 := by
  induction choices generalizing l with
  | nil => trivial
  | cons again choices ih =>
    obtain ⟨start, hgap, hends, houtcome⟩ := drive_outcome h hphase again
    obtain ⟨start', -, hcall⟩ := drive_call h hphase again
    rw [driven]
    refine ⟨hstep again _ start _ hgap hends houtcome, ?_⟩
    intro t ht hkind
    generalize (l.drive again).1 = result at *
    generalize (l.drive again).2 = l' at *
    subst ht
    cases hcall with
    | finish _ hend => exact absurd hend hkind
    | token hready hsource hconfig hrunning _ _ hstop =>
      rw [hstop]
      refine ih hready (phase_ne_finished hrunning) ?_
      rw [hsource, hconfig]
      exact hstep

theorem Lexer.stepwise_ofSource (source : Source) (config : LexerConfig)
    {p : Bool → Nat → Except Stop Token → Prop}
    (hstep : ∀ again offset start result,
      Gap source.contents config.keepComments offset start →
      GapEnds source.contents config.keepComments start →
      Outcome source again start result → p again offset result) (choices : List Bool) :
    Stepwise p 0 choices ((Lexer.ofSource source config).driven choices).1 := by
  have hphase : (Lexer.ofSource source config).phase ≠ .finished := nofun
  have hindex : (Lexer.ofSource source config).cursor.index = 0 :=
    (At.ofSource source config.lookaheadCapacity).2
  rw [← hindex]
  exact stepwise_driven (ready_ofSource source config) hphase hstep choices

end Lexis
