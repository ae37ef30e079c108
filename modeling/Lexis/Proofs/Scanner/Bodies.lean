import Lexis.Proofs.Scanner.Outcome
import Lexis.Proofs.Scanner.Units

/-!
# Quoted bodies are crossed

The scan of a body crosses its units up to the place where it halts. There it finds a closer and
passes it, or the literal is broken off. Since a text halts the scan in one place only, a body that
is known to be crossed is the one that is found (`quotedBody_of_crosses`).
-/

namespace Lexis

open CharClass

namespace Cursor

variable {c : Cursor}

theorem isFollowedBy_fst (h : c.Started) (word : List Char) {distance : Nat}
    (hn : distance ≤ UInt32.size) :
    (c.isFollowedBy word distance).1 = word.isPrefixOf (c.text.drop distance) := by
  induction word generalizing c distance with
  | nil => rfl
  | cons ch word ih =>
    have hahead := passes_peek h distance
    have hpeek := h.peek_eq distance hn
    simp only [isFollowedBy, hpeek]
    cases hget : c.text[distance]? with
    | none =>
      rw [List.drop_eq_nil_of_le (List.getElem?_eq_none_iff.1 hget)]
      rfl
    | some d =>
      obtain ⟨hlt, rfl⟩ := List.getElem?_eq_some_iff.1 hget
      rw [List.drop_eq_getElem_cons hlt, List.isPrefixOf_cons_cons]
      by_cases hch : ch = c.text[distance]
      · have hseen : (c.peek distance).1.is ch = true := by
          rw [hpeek, hget, hch]
          exact beq_self_eq_true _
        simp [CodePoint.ofChar?, CodePoint.is, ← hch, ih hahead.started (lt_of_is_peek hn hseen),
          hahead.text_eq_of_nil]
      · have hne : ¬ c.text[distance] = ch := fun heq => hch heq.symm
        simp [CodePoint.ofChar?, CodePoint.is, hch, hne]

theorem startsWith_fst (h : c.Started) (word : List Char) :
    (c.startsWith word).1 = word.isPrefixOf c.text := by
  cases word with
  | nil => rfl
  | cons ch word =>
    have hahead := isFollowedBy_fst h word (show 1 ≤ UInt32.size by decide)
    simp only [startsWith, h.current_eq_head]
    cases htext : c.text with
    | nil => rfl
    | cons d text =>
      rw [htext] at hahead
      rw [List.isPrefixOf_cons_cons]
      by_cases hch : ch = d
      · subst hch
        simpa [CodePoint.ofChar?, CodePoint.is] using hahead
      · have hne : ¬ d = ch := fun heq => hch heq.symm
        simp [CodePoint.ofChar?, CodePoint.is, hch, hne]

theorem Passes.text_eq_of_append {c' : Cursor} {before more : List Char} (h : c.Passes before c')
    (htext : c.text = before ++ more) : c'.text = more :=
  List.append_cancel_left (h.text_eq.symm.trans htext)

theorem passes_advanceBy_length {word : List Char} (h : c.Started) (hword : word <+: c.text) :
    c.Passes word (c.advanceBy word.length) := by
  have hpass := passes_advanceBy h word.length
  rwa [← List.prefix_iff_eq_take.1 hword] at hpass

end Cursor

namespace Scanner

variable {c c' : Cursor} {style : QuoteStyle} {body rest closer : List Char} {ending : Ending}

theorem closerAt_fst (h : c.Started) (closers : List (List Char × Ending)) :
    (closerAt closers c).1 =
      (closers.find? fun closer => closer.1.isPrefixOf c.text).map fun closer =>
        (closer.1.length, closer.2) := by
  induction closers generalizing c with
  | nil => rfl
  | cons closer closers ih =>
    have hfirst := Cursor.startsWith_fst h closer.1
    have hahead := Cursor.passes_startsWith h closer.1
    simp only [closerAt, hfirst]
    cases hfound : closer.1.isPrefixOf c.text with
    | true => simp [hfound]
    | false =>
      simp only [Bool.false_eq_true, if_false, List.find?_cons, hfound]
      rw [ih hahead.started, hahead.text_eq_of_nil]

theorem passes_closerAt (h : c.Started) (closers : List (List Char × Ending)) :
    c.Passes [] (closerAt closers c).2 := by
  induction closers generalizing c with
  | nil => exact .refl h
  | cons closer closers ih =>
    have hfirst := Cursor.passes_startsWith h closer.1
    simp only [closerAt]
    split
    · exact hfirst
    · exact hfirst.trans (ih hfirst.started)

/-! ## Escapes -/

theorem passes_stepOver (h : c.Started) : c.Passes (c.text.take 1) (stepOver c) := by
  unfold stepOver
  split
  · exact Cursor.passes_advanceBy h 1
  · rename_i hnot
    have htext : c.text = [] := by
      apply h.text_of_not_scalar
      intro ch hcur
      simp [hcur, CodePoint.isScalar] at hnot
    rw [htext]
    exact .refl h

theorem passes_skipLineFeed (h : c.Started) {ch : Char} (htext : c.text = ch :: '\n' :: rest) :
    c.Passes [ch] (skipLineFeed c) := by
  have hahead := Cursor.passes_peek h 1
  have hstep := hahead.trans (Cursor.passes_advanceBy hahead.started 1)
  rw [hahead.text_eq_of_nil, htext] at hstep
  simp only [skipLineFeed, h.peek_eq 1 (by decide), htext]
  exact hstep

theorem passes_skipLineFeed_of_ne (h : c.Started) (hnext : c.text[1]? ≠ some '\n') :
    c.Passes [] (skipLineFeed c) := by
  have hnot : (CodePoint.ofChar? c.text[1]?).is '\n' = false := by
    cases hsecond : c.text[1]? with
    | none => rfl
    | some ch =>
      rw [hsecond, ne_eq, Option.some.injEq] at hnext
      simp [CodePoint.ofChar?, CodePoint.is, hnext]
  simp only [skipLineFeed, h.peek_eq 1 (by decide), hnot, Bool.false_eq_true, if_false]
  exact Cursor.passes_peek h 1

theorem passes_skipEscape (h : c.current = .scalar '\\') (hescapes : style.hasEscapes = true) :
    ∃ unit, '\\' ∈ unit ∧ c.Passes unit (skipEscape c) ∧
      style.IsUnit unit (skipEscape c).text := by
  have hslash := Cursor.passes_advance h
  have hcur := hslash.started.current_eq_head
  unfold skipEscape
  by_cases hreturn : c.advance.text.head? = some '\r'
  · obtain ⟨text, htext⟩ := List.head?_eq_some_iff.1 hreturn
    have his : c.advance.current.is '\r' = true := by
      rw [hcur, htext]
      rfl
    rw [if_pos his]
    by_cases hfeed : text.head? = some '\n'
    · obtain ⟨more, rfl⟩ := List.head?_eq_some_iff.1 hfeed
      have hskip := passes_skipLineFeed hslash.started htext
      have hstep := passes_stepOver hskip.started
      rw [hskip.text_eq_of_append htext] at hstep
      exact ⟨_, List.mem_cons_self, (hslash.trans hskip).trans hstep, .lineBreak _ hescapes⟩
    · have hskip := passes_skipLineFeed_of_ne hslash.started (by
        simpa [htext, List.head?_eq_getElem?] using hfeed)
      have hstep := hskip.trans (passes_stepOver hskip.started)
      rw [hskip.text_eq_of_nil, htext] at hstep
      refine ⟨_, List.mem_cons_self, hslash.trans hstep, .escape _ _ hescapes fun _ => ?_⟩
      rwa [hstep.text_eq_of_append htext]
  · have his : ¬ c.advance.current.is '\r' = true := by
      rw [hcur, ← List.head?_eq_getElem?]
      cases hhead : c.advance.text.head? with
      | none => exact Bool.false_ne_true
      | some ch =>
        rw [hhead, Option.some.injEq] at hreturn
        simp [CodePoint.ofChar?, CodePoint.is, hreturn]
    rw [if_neg his]
    have hstep := passes_stepOver hslash.started
    cases htext : c.advance.text with
    | nil =>
      rw [htext] at hstep
      refine ⟨_, List.mem_cons_self, hslash.trans hstep, ?_⟩
      rw [hstep.text_eq_of_nil, htext]
      exact .dangling hescapes
    | cons ch text =>
      rw [htext] at hstep hreturn
      refine ⟨_, List.mem_cons_self, hslash.trans hstep, .escape ch _ hescapes fun heq => ?_⟩
      exact absurd (congrArg some heq) hreturn

/-! ## Bodies -/

/-- What the scan of a body comes to: behind some units that are crossed a closer is passed, or the
literal is broken off. -/
def EndsBody (style : QuoteStyle) (start : Nat) (deferred : Bool) (c : Cursor) :
    EStateM.Result LexError Cursor QuotedBody → Prop
  | .ok body c' => ∃ passed closer, c.Passes (passed ++ closer) c' ∧
      style.Crosses passed (closer ++ c'.text) ∧
      style.closing? (closer ++ c'.text) = some (closer, body.ending) ∧
      body.stop = c.index + Utf8.size passed ∧
      (body.hasEscape || body.nonAscii) = (deferred || style.defers passed)
  | .error e _ => ∃ passed c', c.Passes passed c' ∧ style.Crosses passed c'.text ∧
      style.breaksAt c'.text = true ∧ e = .between style.unterminated start c'.index

theorem EndsBody.cons {start : Nat} {deferred deferred' : Bool} {unit : List Char}
    {result : EStateM.Result LexError Cursor QuotedBody} (hpass : c.Passes unit c')
    (hunit : style.IsUnit unit c'.text) (hlive : style.Live c.text)
    (hdefers : ∀ passed, (deferred' || style.defers passed) =
      (deferred || style.defers (unit ++ passed)))
    (h : EndsBody style start deferred' c' result) : EndsBody style start deferred c result := by
  cases result with
  | ok body c'' =>
    obtain ⟨passed, closer, hpassed, hcrosses, hcloser, hstop, hvalue⟩ := h
    have hall := hpass.trans hpassed
    rw [hpassed.text_eq, List.append_assoc] at hunit
    rw [hall.text_eq, List.append_assoc, List.append_assoc] at hlive
    refine ⟨unit ++ passed, closer, by rwa [List.append_assoc], .cons hunit hlive hcrosses, hcloser,
      ?_, hvalue.trans (hdefers passed)⟩
    rw [hstop, hpass.index_eq, Utf8.size_append, Nat.add_assoc]
  | error e _ =>
    obtain ⟨passed, c'', hpassed, hcrosses, hbreaks, he⟩ := h
    have hall := hpass.trans hpassed
    rw [hpassed.text_eq] at hunit
    rw [hall.text_eq, List.append_assoc] at hlive
    exact ⟨_, c'', hall, .cons hunit hlive hcrosses, hbreaks, he⟩

theorem live_of_closerAt {ch : Char} (hcur : c.current = .scalar ch)
    (hline : ¬ (style.isSingleLine && isLineTerminator ch) = true)
    (hcloser : (closerAt style.closers c).1 = none) : style.Live c.text := by
  rw [closerAt_fst (.of_scalar hcur), Option.map_eq_none_iff] at hcloser
  refine ⟨?_, hcloser⟩
  rw [Cursor.text_of_scalar hcur, QuoteStyle.breaksAt, List.head?_cons, Option.all_some]
  exact eq_false_of_ne_true hline

theorem endsBody_quotedRest (style : QuoteStyle) (start : Nat) (hasEscape nonAscii : Bool)
    (h : c.Started) : EndsBody style start (hasEscape || nonAscii) c
      (quotedRest style style.closers start hasEscape nonAscii c) := by
  fun_induction quotedRest style style.closers start hasEscape nonAscii c with
  | case1 hasEscape nonAscii c ch hcur hline =>
    refine ⟨[], c, .refl h, .nil _, ?_, rfl⟩
    rw [Cursor.text_of_scalar hcur]
    exact hline
  | case2 hasEscape nonAscii c ch hcur hline width ending c' hcloser =>
    have hfound := closerAt_fst h style.closers
    have hahead := passes_closerAt h style.closers
    rw [hcloser] at hfound hahead
    obtain ⟨⟨closer, ending⟩, hclosing, hpair⟩ := Option.map_eq_some_iff.1 hfound.symm
    obtain ⟨rfl, rfl⟩ := Prod.mk.inj hpair
    have hword := (QuoteStyle.prefix_of_closing? hclosing).2
    rw [← hahead.text_eq_of_nil] at hword
    have hall := hahead.trans (Cursor.passes_advanceBy_length hahead.started hword)
    refine ⟨[], closer, hall, .nil _, hall.text_eq ▸ hclosing, rfl, ?_⟩
    simp [QuoteStyle.defers]
  | case3 hasEscape nonAscii c ch hcur hline c' hcloser _ hcur' _ _ _ hescape ih =>
    have hahead := passes_closerAt h style.closers
    have hlive := live_of_closerAt hcur hline (congrArg Prod.fst hcloser)
    rw [hcloser] at hahead
    obtain ⟨hslash, hescapes⟩ := Bool.and_eq_true_iff.1 hescape
    obtain rfl := of_decide_eq_true hslash
    obtain ⟨unit, hmem, hpass, hunit⟩ := passes_skipEscape hcur' hescapes
    refine .cons (hahead.trans hpass) hunit hlive (fun passed => ?_) (ih hpass.started)
    rw [List.nil_append, QuoteStyle.defers_append_of_mem hescapes hmem]
    simp
  | case4 hasEscape nonAscii c ch hcur hline c' hcloser _ hcur' _ _ _ hescape ih =>
    have hahead := passes_closerAt h style.closers
    have hlive := live_of_closerAt hcur hline (congrArg Prod.fst hcloser)
    rw [hcloser] at hahead
    have hpass := Cursor.passes_advance hcur'
    have hplain : ch = '\\' → style.hasEscapes = false := by simpa using hescape
    refine .cons (hahead.trans hpass) (.single ch _ hplain) hlive (fun passed => ?_)
      (ih hpass.started)
    rw [List.nil_append, List.singleton_append, QuoteStyle.defers_single hplain]
    simp only [Bool.or_assoc]
  | case5 hasEscape nonAscii c hnot =>
    refine ⟨[], c, .refl h, .nil _, ?_, rfl⟩
    rw [h.text_of_not_scalar hnot]
    rfl

/-- The scan of a body finds the units in front of a closer, passes both, and takes the body for a
value if that needs no decoding. -/
theorem ends_quotedBody (style : QuoteStyle) (start : Nat) (h : c.Started) :
    Ends (quotedBody style start) c
      (fun found c' => ∃ passed closer, c.Passes (passed ++ closer) c' ∧
        style.Crosses passed (closer ++ c'.text) ∧
        style.closing? (closer ++ c'.text) = some (closer, found.1.ending) ∧
        found.1.stop = c.index + Utf8.size passed ∧ found.2 = style.value? passed)
      (fun e => ∃ passed c', c.Passes passed c' ∧ style.Crosses passed c'.text ∧
        style.breaksAt c'.text = true ∧ e = .between style.unterminated start c'.index) := by
  have hrest := endsBody_quotedRest style start false false h
  unfold quotedBody
  simp only [ends_bind, ends_index]
  apply ends_bind.2
  unfold Ends
  cases hresult : quotedRest style style.closers start false false c with
  | ok body c' =>
    rw [hresult] at hrest
    obtain ⟨passed, closer, hpassed, hcrosses, hcloser, hstop, hvalue⟩ := hrest
    refine ⟨passed, closer, hpassed, hcrosses, hcloser, hstop, ?_⟩
    have hspells := Utf8.spells_of_textFrom_eq c.index_le
      (hpassed.text_eq.trans (List.append_assoc ..))
    rw [← hstop, ← hpassed.bytes_eq] at hspells
    show (if body.hasEscape || body.nonAscii then none
      else String.fromUTF8? ((Span.mk c.index body.stop).slice c'.bytes)) = _
    rw [hvalue, Span.slice, hspells.slice?_eq, Option.getD_some, Utf8.fromUTF8?_utf8Encode]
    rfl
  | error e c' =>
    rw [hresult] at hrest
    exact hrest

/-- A body that is crossed in front of a closer is found. -/
theorem quotedBody_of_crosses (start : Nat) (h : c.Started) (htext : c.text = body ++ rest)
    (hcrosses : style.Crosses body rest) (hcloser : style.closing? rest = some (closer, ending)) :
    ∃ found c', quotedBody style start c = .ok (found, style.value? body) c' ∧
      c.Passes (body ++ closer) c' ∧ found.ending = ending := by
  have hends := ends_quotedBody style start h
  have hhalt := QuoteStyle.not_live_of_closing? hcloser
  unfold Ends at hends
  cases hscan : quotedBody style start c with
  | ok found c' =>
    rw [hscan] at hends
    obtain ⟨passed, closer', hpassed, hcrosses', hcloser', -, hvalue⟩ := hends
    -- The given body and what has been passed both end where a scan halts.
    have hsame : body ++ rest = passed ++ (closer' ++ c'.text) := by
      rw [← htext, hpassed.text_eq, List.append_assoc]
    obtain ⟨rfl, rfl⟩ := hcrosses.unique hcrosses' hsame hhalt
      (QuoteStyle.not_live_of_closing? hcloser')
    rw [hcloser', Option.some.injEq, Prod.mk.injEq] at hcloser
    obtain ⟨rfl, rfl⟩ := hcloser
    exact ⟨found.1, c', by rw [← hvalue], hpassed, rfl⟩
  | error e c' =>
    rw [hscan] at hends
    obtain ⟨passed, c₁, hpassed, hcrosses', hbreaks, -⟩ := hends
    obtain ⟨-, rfl⟩ := hcrosses.unique hcrosses' (htext.symm.trans hpassed.text_eq) hhalt
      (QuoteStyle.not_live_of_breaksAt hbreaks)
    rw [QuoteStyle.closing?_of_breaksAt hbreaks] at hcloser
    cases hcloser

end Scanner

end Lexis
