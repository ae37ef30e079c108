import Lexis.Proofs.Beside.Lexer
import Lexis.Proofs.Lexer.Driven

/-!
# Calls beside each other

Going on with a template leaves lexers beside each other as a scan does (`rescan_beside`). Where
nothing is behind the text that they share, their calls come to the same (`drive_alike`).
-/

namespace Lexis.Lexer

open CharClass

variable {k : Nat} {newline : Bool} {y gap u : List Char} {l l' m m' : Lexer} {brace : Token}

theorem next_beside (h : Beside k newline y gap u l m)
    (hcloses : Closes y l.source.contents l.cursor.index) :
    CallsBeside k newline y l m (l.next.1.mapError .fatal, l.next.2)
      (m.next.1.mapError .fatal, m.next.2) := by
  rw [next_of_scanning h.phase, next_of_scanning h.phase']
  exact scan_beside h hcloses

/-! ## Templates that go on -/

/-- The brace is the token that the lexer has just returned. -/
structure BehindBrace (brace : Token) (l : Lexer) : Prop where
  kind_eq : brace.kind = .operator .closeBrace
  stop_eq : brace.stop = l.cursor.index
  text : ∃ text, text ≠ [] ∧ Utf8.Spells l.source.contents brace.offset brace.stop text
  reported : l.ReportedBefore brace.offset

theorem Call.behindBrace {start : Nat} (h : Call l start (.ok brace) l')
    (hkind : brace.kind = .operator .closeBrace) (hreported : l.ReportedBefore start) :
    BehindBrace brace l' := by
  cases h with
  | finish _ hend => exact absurd (hend.symm.trans hkind) nofun
  | token hready hsource hconfig hrunning _ hoffset hstop hne hspells hcomplains =>
    rw [Complains, if_neg (by simp [hkind])] at hcomplains
    refine ⟨hkind, hstop, ⟨_, hne, ?_⟩, ?_⟩
    · rw [hsource, hoffset]
      exact hspells
    · intro d hd
      rw [hcomplains] at hd
      exact hoffset ▸ hreported d hd

theorem BehindBrace.call (h : BehindBrace brace l) (hready : l.Ready)
    (hphase : l.phase = .scanning) : Call l brace.offset (l.rescan brace).1 (l.rescan brace).2 := by
  obtain ⟨text, hne, hspells⟩ := h.text
  exact rescan_call hready hphase h.kind_eq h.stop_eq hspells hne h.reported

theorem Call.liesIn {start : Nat} {e : LexError} (h : Call l start (.error (.fatal e)) l') :
    e.LiesIn start (Utf8.textFrom l.source.contents start) := by
  cases h with
  | abort _ hlies => exact hlies

theorem Call.ready {start : Nat} {t : Token} (h : Call l start (.ok t) l')
    (hphase : l'.phase = .scanning) : l'.Ready ∧ t.kind ≠ .endOfInput := by
  cases h with
  | token hready _ _ _ hkind => exact ⟨hready, hkind⟩
  | finish hended => exact absurd hended (phase_ne_finished hphase)

/-- A template goes on alike at both places. -/
theorem rescan_beside (h : Beside k false y [] u l m) (hbrace : BehindBrace brace l)
    (hbrace' : BehindBrace (brace.moved k newline) m) :
    CallsBeside k newline y l m (l.rescan brace) (m.rescan (brace.moved k newline)) := by
  have hcall := hbrace.call h.ready h.phase
  have hcall' := hbrace'.call h.ready' h.phase'
  have hbeside : Scanner.Beside 0 k [] y u l.cursor m.cursor :=
    ⟨h.detached, h.ready.cursor.started, h.ready'.cursor.started, h.index_eq,
      h.text_eq.trans (List.append_nil _).symm, h.text_eq'⟩
  have hstart : brace.offset + k = (brace.moved k newline).offset + 0 := rfl
  have hagree := Scanner.agree_templateContinuation { multiLine := true } hbeside hstart
  rw [rescan_of_brace h.phase hbrace.kind_eq hbrace.stop_eq] at hcall ⊢
  rw [rescan_of_brace h.phase' hbrace'.kind_eq hbrace'.stop_eq] at hcall' ⊢
  cases hscan : Scanner.templateContinuation brace.offset { multiLine := true } l.cursor with
  | error e c =>
    rw [hscan] at hagree hcall
    refine .abort (phase_report ..) ?_
    rintro rfl
    obtain ⟨e', d, hscan', he⟩ := hagree rfl rfl
    obtain rfl : e.shift k = e' := he
    rw [hscan'] at hcall' ⊢
    have hlies := hcall.liesIn
    have hlies' := hcall'.liesIn
    exact ⟨_, rfl, phase_report .., progress_abort h.ready.tracks h.ready'.tracks
      hbrace.reported hbrace'.reported hlies hlies' ..⟩
  | ok lexeme c =>
    rw [hscan] at hagree hcall
    obtain ⟨lexeme', d, hscan', hsame, hbehind⟩ := hagree c.text (List.append_nil _).symm
    obtain rfl : lexeme.shift k = lexeme' := hsame.trans (Lexeme.shift_zero _)
    rw [hscan'] at hcall' ⊢
    have hindex : c.index + k = d.index := hbehind.index_eq
    have htoken : tokenOf (lexeme.shift k) (brace.offset + k)
          (brace.moved k newline).flags.newlineBefore d =
        (tokenOf lexeme brace.offset brace.flags.newlineBefore c).moved k newline := by
      rw [moved_tokenOf, hindex]
      rfl
    have hprogress : Progress k l { l with cursor := c } m { m with cursor := d } :=
      { Progress.refl k l m with }
    obtain ⟨hready, hkind⟩ := hcall.ready h.phase
    obtain ⟨hready', -⟩ := hcall'.ready h.phase'
    have hnext : Beside k false y [] c.text { l with cursor := c } { m with cursor := d } :=
      { h with
        ready := hready
        ready' := hready'
        index_eq := hbehind.index_eq
        text_eq := rfl
        text_eq' := hbehind.text_eq' }
    show CallsBeside k newline y l m _ (.ok (tokenOf (lexeme.shift k) (brace.offset + k) _ d), _)
    rw [htoken]
    exact .token hkind hnext hprogress

/-! ## Where nothing is behind the text -/

/-- The calls of the lexers have come to the same. -/
inductive Alike (k : Nat) (newline : Bool) (l m : Lexer) :
    Except Stop Token × Lexer → Except Stop Token × Lexer → Prop
  | token {t : Token} {l' m' : Lexer} {u : List Char} (kind_ne : t.kind ≠ .endOfInput)
      (beside : Beside k false [] [] u l' m') (progress : Progress k l l' m m') :
      Alike k newline l m (.ok t, l') (.ok (t.moved k newline), m')
  | finish {t : Token} {l' m' : Lexer} (kind_eq : t.kind = .endOfInput)
      (finished : l'.phase = .finished) (finished' : m'.phase = .finished)
      (progress : Progress k l l' m m') :
      Alike k newline l m (.ok t, l') (.ok (t.moved k newline), m')
  | abort {e : LexError} {l' m' : Lexer} (finished : l'.phase = .finished)
      (finished' : m'.phase = .finished) (progress : Progress k l l' m m') :
      Alike k newline l m (.error (.fatal e), l') (.error (.fatal (e.shift k)), m')

variable {found found' : Except Stop Token × Lexer}

theorem CallsBeside.alike (h : CallsBeside k newline [] l m found found') :
    Alike k newline l m found found' := by
  cases h with
  | token hkind hbeside hprogress => exact .token hkind hbeside hprogress
  | abort hfinished hbehind =>
    obtain ⟨m', rfl, hfinished', hprogress⟩ := hbehind rfl
    exact .abort hfinished hfinished' hprogress
  | @finish l₁ m₁ gap hbeside hprogress =>
    obtain ⟨hpass, hfound⟩ := skipWhitespace_eq m₁.newlineBefore hbeside.ready'.cursor.started
    have htext : m₁.cursor.text = gap ++ [] := hbeside.text_eq'
    have hall : m₁.cursor.text.takeWhile isWhitespace = gap := by
      rw [htext, List.takeWhile_append_of_pos hbeside.blank]
      exact List.append_nil gap
    rw [hall] at hpass hfound
    have hend : ∀ ch, (skipWhitespace m₁.newlineBefore m₁.cursor).2.current ≠ .scalar ch := by
      intro ch hcur
      have hrest := hpass.text_eq_of_append htext
      rw [Cursor.text_of_scalar hcur] at hrest
      cases hrest
    rw [scan_of_not_scalar rfl hend]
    have htoken : tokenOf { kind := .endOfInput }
          (skipWhitespace m₁.newlineBefore m₁.cursor).2.index
          (skipWhitespace m₁.newlineBefore m₁.cursor).1
          (skipWhitespace m₁.newlineBefore m₁.cursor).2 =
        (tokenOf { kind := .endOfInput } l₁.cursor.index l₁.newlineBefore l₁.cursor).moved
          k newline := by
      rw [moved_tokenOf, hbeside.index_eq, ← hpass.index_eq, ← hbeside.newline_eq, ← hfound]
      rfl
    show Alike k newline l m _ (.ok (tokenOf _ _ _ _), _)
    rw [htoken]
    exact .finish rfl rfl rfl { hprogress with }

theorem Alike.after {l₁ m₁ : Lexer} (h : Progress k l l₁ m m₁)
    (hrest : Alike k newline l₁ m₁ found found') : Alike k newline l m found found' := by
  cases hrest with
  | token hkind hbeside hprogress => exact .token hkind hbeside (h.trans hprogress)
  | finish hkind hfinished hfinished' hprogress =>
    exact .finish hkind hfinished hfinished' (h.trans hprogress)
  | abort hfinished hfinished' hprogress => exact .abort hfinished hfinished' (h.trans hprogress)

theorem next_alike (h : Beside k newline [] gap u l m) :
    Alike k newline l m (l.next.1.mapError .fatal, l.next.2)
      (m.next.1.mapError .fatal, m.next.2) :=
  (next_beside h (.inl rfl)).alike

theorem drive_of_ok {t : Token} (h : (l.next.1.mapError Stop.fatal, l.next.2) = (.ok t, l'))
    (again : Bool) : l.drive again =
      if again && t.kind == .operator .closeBrace then l'.rescan t else (.ok t, l') := by
  obtain ⟨hresult, rfl⟩ := Prod.mk.inj h
  unfold drive
  cases hnext : l.next with
  | mk result l'' =>
    rw [hnext] at hresult
    cases result with
    | error e => cases hresult
    | ok t' =>
      cases hresult
      rfl

theorem drive_of_error {stop : Stop}
    (h : (l.next.1.mapError Stop.fatal, l.next.2) = (.error stop, l')) (again : Bool) :
    l.drive again = (.error stop, l') := by
  obtain ⟨hresult, rfl⟩ := Prod.mk.inj h
  unfold drive
  cases hnext : l.next with
  | mk result l'' =>
    rw [hnext] at hresult
    cases result with
    | ok t => cases hresult
    | error e =>
      cases hresult
      rfl

theorem BehindBrace.of_next (h : l.Ready) (hphase : l.phase ≠ .finished)
    (hnext : (l.next.1.mapError Stop.fatal, l.next.2) = (.ok brace, l'))
    (hkind : brace.kind = .operator .closeBrace) : BehindBrace brace l' := by
  obtain ⟨start, hgap, hcall⟩ := next_call h hphase
  obtain ⟨hresult, rfl⟩ := Prod.mk.inj hnext
  rw [hresult] at hcall
  exact hcall.behindBrace hkind (h.reported.mono (hgap.le h.cursor.boundary.1))

/-- A template may go on at a closing brace that has just been returned. -/
theorem behindBrace_of_next (h : l.Ready) (hphase : l.phase ≠ .finished)
    (hnext : l.next = (.ok brace, l')) (hkind : brace.kind = .operator .closeBrace) :
    l'.Ready ∧ l'.phase = .scanning ∧ BehindBrace brace l' := by
  have hfound : (l.next.1.mapError Stop.fatal, l.next.2) = (.ok brace, l') := by
    rw [hnext]
    rfl
  have hbehind := BehindBrace.of_next h hphase hfound hkind
  obtain ⟨start, -, hcall⟩ := next_call h hphase
  rw [hnext] at hcall
  change Call l start (.ok brace) l' at hcall
  cases hcall with
  | token hready _ _ hrunning => exact ⟨hready, hrunning, hbehind⟩
  | finish _ hend => exact absurd (hend.symm.trans hkind) nofun

/-- The choice to go on with a template leads to the same. -/
theorem drive_alike (h : Beside k newline [] gap u l m) (again : Bool) :
    Alike k newline l m (l.drive again) (m.drive again) := by
  have hnext := next_alike h
  generalize hl : (l.next.1.mapError Stop.fatal, l.next.2) = found at hnext
  generalize hm : (m.next.1.mapError Stop.fatal, m.next.2) = found' at hnext
  cases hnext with
  | @token t l' m' u' hkind hbeside hprogress =>
    rw [drive_of_ok hl, drive_of_ok hm]
    show Alike k newline l m _
      (if again && t.kind == .operator .closeBrace then m'.rescan (t.moved k newline)
        else (.ok (t.moved k newline), m'))
    split
    · rename_i hagain
      have hbrace := eq_of_beq (Bool.and_eq_true_iff.1 hagain).2
      have hbehind := BehindBrace.of_next h.ready (phase_ne_finished h.phase) hl hbrace
      have hbehind' := BehindBrace.of_next h.ready' (phase_ne_finished h.phase') hm hbrace
      exact (rescan_beside hbeside hbehind hbehind').alike.after hprogress
    · exact .token hkind hbeside hprogress
  | @finish t l' m' hkind hfinished hfinished' hprogress =>
    have hother : (t.kind == .operator .closeBrace) = false := by
      rw [hkind]
      rfl
    rw [drive_of_ok hl, drive_of_ok hm]
    show Alike k newline l m _
      (if again && t.kind == .operator .closeBrace then m'.rescan (t.moved k newline)
        else (.ok (t.moved k newline), m'))
    rw [hother, Bool.and_false, if_neg nofun, if_neg nofun]
    exact .finish hkind hfinished hfinished' hprogress
  | abort hfinished hfinished' hprogress =>
    rw [drive_of_error hl, drive_of_error hm]
    exact .abort hfinished hfinished' hprogress

/-! ## Lexers that begin -/

/-- A lexer that begins its source is beside one that has come to the same text. -/
theorem Beside.begun {source : Source} {config : LexerConfig} (hready : m.Ready)
    (hphase : m.phase = .scanning) (hconfig : m.config = config) (hdetached : Detached y)
    (hindex : k = m.cursor.index + Utf8.size gap)
    (htext : m.cursor.text = gap ++ (Utf8.textFrom source.contents 0 ++ y))
    (hblank : ∀ ch ∈ gap, isWhitespace ch = true)
    (hnewline : (m.newlineBefore || gap.any isLineTerminator) = newline) :
    Beside k newline y gap (Utf8.textFrom source.contents 0)
      (Lexer.ofSource source config).begun m := by
  exact {
    ready := ready_begun (ready_ofSource source config)
    ready' := hready
    phase := rfl
    phase' := hphase
    config_eq := hconfig
    detached := hdetached
    index_eq := by rw [index_begun, Nat.zero_add, hindex]
    text_eq := text_begun source config
    text_eq' := htext
    blank := hblank
    newline_eq := hnewline }

/-- The lexer has found the token and goes on behind it. -/
structure Running (l : Lexer) (source : Source) (config : LexerConfig) (t : Token) : Prop where
  ready : l.Ready
  phase : l.phase = .scanning
  source_eq : l.source = source
  config_eq : l.config = config
  newlineBefore : l.newlineBefore = false
  stop_eq : t.stop = l.cursor.index

theorem Running.isFinished {source : Source} {config : LexerConfig} {t : Token}
    (h : l.Running source config t) : l.isFinished = false := by
  rw [Lexer.isFinished, h.phase]
  rfl

theorem Running.beside {source part : Source} {config : LexerConfig} {t : Token}
    (h : m.Running source config t) (hdetached : Detached y)
    (htext : m.cursor.text = Utf8.textFrom part.contents 0 ++ y) :
    Beside t.stop false y [] (Utf8.textFrom part.contents 0) (Lexer.ofSource part config).begun m :=
  .begun h.ready h.phase h.config_eq hdetached h.stop_eq htext (List.forall_mem_nil _)
    ((Bool.or_false _).trans h.newlineBefore)

end Lexis.Lexer
