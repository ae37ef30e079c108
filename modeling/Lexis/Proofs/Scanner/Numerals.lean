import Lexis.Proofs.Beside.Alone
import Lexis.Proofs.Number.Grammar

/-!
# Numbers follow their grammar

A scanner of numbers passes a literal of the grammar and makes the numeral of it (`scanAt_sound`),
and a literal that is all of the text is scanned to its end (`scanAt_complete`). Both are shown for
digits first, then for each part of a number.
-/

namespace Lexis

open CharClass

namespace Scanner

variable {radix : Nat} {place : GroupPlace} {c c' c₁ c₂ : Cursor} {ch : Char}
  {text rest : List Char} {ds : List Nat} {lexeme : Lexeme}

/-! ## Digits -/

/-- What a group may go on with from the place on, to be complete. -/
def GroupPlace.Completes (radix : Nat) : GroupPlace → List Char → Prop
  | .start, text => text = [] ∨ DigitGroup radix text
  | .afterDigit, text => ∀ ch, (digitOf? radix ch).isSome → DigitGroup radix (ch :: text)
  | .afterSeparator, text => DigitGroup radix text

theorem GroupPlace.completes_nil (hplace : place ≠ .afterSeparator) :
    place.Completes radix [] := by
  cases place with
  | start => exact .inl rfl
  | afterDigit => exact fun _ => .single
  | afterSeparator => exact absurd rfl hplace

theorem GroupPlace.completes_of_group (place : GroupPlace) (h : DigitGroup radix text) :
    place.Completes radix text := by
  cases place with
  | start => exact .inr h
  | afterDigit => exact fun _ hdigit => .digit hdigit h
  | afterSeparator => exact h

theorem digitsEnd_eq_ok (h : digitsEnd place c = .ok ds c') :
    ds = [] ∧ c' = c ∧ place ≠ .afterSeparator := by
  unfold digitsEnd at h
  split at h
  · cases h
  · rename_i hplace
    cases h
    exact ⟨rfl, rfl, hplace⟩

theorem digitsEnd_sound (h : c.Started) (hend : digitsEnd place c = .ok ds c') :
    ∃ text, c.Passes text c' ∧ ds = digitsIn radix text ∧ place.Completes radix text := by
  obtain ⟨rfl, rfl, hplace⟩ := digitsEnd_eq_ok hend
  exact ⟨[], .refl h, rfl, GroupPlace.completes_nil hplace⟩

theorem digitsFrom_sound (place : GroupPlace) (h : c.Started)
    (hdigits : digitsFrom radix place c = .ok ds c') :
    ∃ text, c.Passes text c' ∧ ds = digitsIn radix text ∧ place.Completes radix text := by
  fun_induction digitsFrom radix place c generalizing ds with
  | case1 => cases hdigits
  | case2 => cases hdigits
  | case3 c hcur hlt ih =>
    obtain ⟨text, hpass, hds, hgroup⟩ := ih (.advance c) hdigits
    refine ⟨'_' :: text, (Cursor.passes_advance hcur).trans hpass, ?_, ?_⟩
    · rw [digitsIn_separator, hds]
    · exact fun _ hdigit => .separator hdigit hgroup
  | case4 place c ch hcur hlt hne d hd ds₁ c₁ hrest ih =>
    cases hdigits
    obtain ⟨text, hpass, hds, hgroup⟩ := ih (.advance c) hrest
    refine ⟨ch :: text, (Cursor.passes_advance hcur).trans hpass, ?_, ?_⟩
    · rw [digitsIn_cons hd, hds]
    · exact place.completes_of_group (hgroup ch (hd ▸ rfl))
  | case5 => cases hdigits
  | case6 => cases hdigits
  | case7 => exact digitsEnd_sound h hdigits
  | case8 => exact digitsEnd_sound h hdigits

theorem lt_of_mem_digitsFrom (hdigits : digitsFrom radix place c = .ok ds c') :
    ∀ d ∈ ds, d < radix := by
  fun_induction digitsFrom radix place c generalizing ds with
  | case1 => cases hdigits
  | case2 => cases hdigits
  | case3 c hcur hlt ih => exact ih hdigits
  | case4 place c ch hcur hlt hne d hd ds₁ c₁ hrest ih =>
    cases hdigits
    rw [List.forall_mem_cons]
    exact ⟨digitOf?_lt hd, ih hrest⟩
  | case5 => cases hdigits
  | case6 => cases hdigits
  | case7 => simp [(digitsEnd_eq_ok hdigits).1]
  | case8 => simp [(digitsEnd_eq_ok hdigits).1]

theorem lt_of_mem_whole (hwhole : whole c = .ok ds c') : ∀ d ∈ ds, d < 10 := by
  change (if c.current.toChar?.any Char.isDigit then digits 10 else pure [] : Scanner _) c = _
    at hwhole
  split at hwhole
  · exact lt_of_mem_digitsFrom hwhole
  · cases hwhole
    nofun

/-- The text does not go on with a group of the base, nor with a wrong digit. -/
def EndsGroup (radix : Nat) (rest : List Char) : Prop :=
  ∀ ch ∈ rest.head?, ch ≠ '_' ∧ digitOf? radix ch = none ∧ (radix = 10 ∨ digitValue? ch = none)

theorem endsGroup_nil (radix : Nat) : EndsGroup radix [] := nofun

theorem digitsFrom_of_endsGroup (h : c.Started) (hplace : place ≠ .afterSeparator)
    (hrest : EndsGroup radix c.text) : digitsFrom radix place c = .ok [] c := by
  have hend : digitsEnd place c = .ok [] c := if_neg hplace
  cases htext : c.text with
  | nil => rw [digitsFrom_of_text_nil radix place htext, hend]
  | cons ch text =>
    rw [htext] at hrest
    obtain ⟨hne, hdigit, hvalue⟩ := hrest ch rfl
    have hright : ¬ (radix ≠ 10 ∧ (digitValue? ch).isSome) := by
      rintro ⟨hradix, hwrong⟩
      rw [hvalue.resolve_left hradix] at hwrong
      cases hwrong
    rw [digitsFrom_of_scalar radix place (h.current_of_text_cons htext), if_neg hne, hdigit]
    simp only [if_neg hright, hend]

theorem digitsFrom_of_digit {d : Nat} (hcur : c.current = .scalar ch)
    (hd : digitOf? radix ch = some d)
    (hrest : digitsFrom radix .afterDigit c.advance = .ok ds c') :
    digitsFrom radix place c = .ok (d :: ds) c' := by
  have hne : ch ≠ '_' := ne_separator_of_digit (Option.isSome_of_eq_some hd)
  rw [digitsFrom_of_scalar radix place hcur, if_neg hne, hd]
  simp only [hrest]

theorem digitsFrom_of_separator (hcur : c.current = .scalar '_') :
    digitsFrom radix .afterDigit c = digitsFrom radix .afterSeparator c.advance := by
  rw [digitsFrom_of_scalar radix .afterDigit hcur, if_pos rfl]

theorem digitsFrom_complete (hgroup : DigitGroup radix text) (hrest : EndsGroup radix rest)
    (place : GroupPlace) (h : c.Started) (htext : c.text = text ++ rest) :
    ∃ c', digitsFrom radix place c = .ok (digitsIn radix text) c' ∧ c.Passes text c' := by
  have hnot : GroupPlace.afterDigit ≠ .afterSeparator := nofun
  induction hgroup generalizing place c with
  | single hdigit =>
    obtain ⟨d, hd⟩ := Option.isSome_iff_exists.1 hdigit
    have hcur := h.current_of_text_cons htext
    have hpass := Cursor.passes_advance hcur
    rw [← hpass.text_eq_of_append htext] at hrest
    have hend := digitsFrom_of_endsGroup hpass.started hnot hrest
    exact ⟨_, digitsIn_cons hd [] ▸ digitsFrom_of_digit hcur hd hend, hpass⟩
  | digit hdigit hmore ih =>
    obtain ⟨d, hd⟩ := Option.isSome_iff_exists.1 hdigit
    have hcur := h.current_of_text_cons htext
    have hpass := Cursor.passes_advance hcur
    obtain ⟨c', hfound, hpass'⟩ := ih .afterDigit hpass.started (hpass.text_eq_of_append htext)
    exact ⟨c', digitsIn_cons hd _ ▸ digitsFrom_of_digit hcur hd hfound, hpass.trans hpass'⟩
  | separator hdigit hmore ih =>
    obtain ⟨d, hd⟩ := Option.isSome_iff_exists.1 hdigit
    have hcur := h.current_of_text_cons htext
    have hpass := Cursor.passes_advance hcur
    have htext₁ := hpass.text_eq_of_append htext
    have hcur₁ := hpass.started.current_of_text_cons htext₁
    have hpass₁ := Cursor.passes_advance hcur₁
    obtain ⟨c', hfound, hpass'⟩ :=
      ih .afterSeparator hpass₁.started (hpass₁.text_eq_of_append htext₁)
    rw [← digitsFrom_of_separator hcur₁] at hfound
    refine ⟨c', ?_, (hpass.trans hpass₁).trans hpass'⟩
    rw [digitsIn_cons hd, digitsIn_separator]
    exact digitsFrom_of_digit hcur hd hfound

/-- Digits in front of which a digit was seen are a group. -/
theorem digits_sound (h : c.Started) (hdigit : c.text.head?.any Char.isDigit = true)
    (hdigits : digits 10 c = .ok ds c') :
    ∃ text, c.Passes text c' ∧ ds = digitsIn 10 text ∧ DigitGroup 10 text := by
  obtain ⟨text, hpass, hds, rfl | hgroup⟩ := digitsFrom_sound .start h hdigits
  · obtain ⟨passed, hpass', hpos⟩ := digits_eq_ok h (isSome_of_any_isDigit hdigit) hdigits
    rw [← hpass.unique hpass'] at hpos
    cases hpos
  · exact ⟨text, hpass, hds, hgroup⟩

theorem any_isDigit_of_group (h : DigitGroup 10 text) (rest : List Char) :
    (text ++ rest).head?.any Char.isDigit = true := by
  obtain ⟨ch, more, rfl, hdigit⟩ := h.exists_cons
  exact isDigit_of_digitOf? hdigit

/-! ## The parts of a number -/

theorem endsGroup_exponent {exponent? : Option Exponent}
    (h : ExponentText (DigitGroup 10) exponent? text) : EndsGroup 10 text :=
  h.forall_head ⟨by decide, by decide, .inl rfl⟩ ⟨by decide, by decide, .inl rfl⟩

theorem endsGroup_fraction {fraction? : Option (List Nat)} {exponent? : Option Exponent}
    (hfraction : FractionText (DigitGroup 10) fraction? text)
    (hexponent : ExponentText (DigitGroup 10) exponent? rest) : EndsGroup 10 (text ++ rest) :=
  hfraction.forall_head hexponent ⟨by decide, by decide, .inl rfl⟩
    ⟨by decide, by decide, .inl rfl⟩ ⟨by decide, by decide, .inl rfl⟩

theorem whole_sound (h : c.Started) (hwhole : whole c = .ok ds c') :
    ∃ text, c.Passes text c' ∧ ds = digitsIn 10 text ∧
      if c.text.head?.any Char.isDigit then DigitGroup 10 text else text = [] := by
  rw [whole_eq h] at hwhole
  split at hwhole
  · rename_i hdigit
    simpa only [hdigit, if_true] using digits_sound h hdigit hwhole
  · rename_i hdigit
    cases hwhole
    refine ⟨[], .refl h, rfl, ?_⟩
    rw [if_neg hdigit]

theorem whole_complete (hgroup : DigitGroup 10 text) (hrest : EndsGroup 10 rest) (h : c.Started)
    (htext : c.text = text ++ rest) :
    ∃ c', whole c = .ok (digitsIn 10 text) c' ∧ c.Passes text c' := by
  rw [whole_eq h, htext, if_pos (any_isDigit_of_group hgroup rest)]
  exact digitsFrom_complete hgroup hrest .start h htext

theorem fraction_sound {fraction? : Option (List Nat)} (h : c.Started)
    (hfraction : fraction c = .ok fraction? c') :
    ∃ text, c.Passes text c' ∧ FractionText (DigitGroup 10) fraction? text ∧
      (startsFraction c.text = true → fraction?.isSome) := by
  have hahead := Cursor.passes_peek h 1
  rw [fraction_eq h] at hfraction
  split at hfraction
  · rename_i hstarts
    obtain ⟨hdot, hdigit⟩ := Bool.and_eq_true_iff.1 hstarts
    rw [beq_iff_eq, ← List.head?_eq_getElem?] at hdot
    obtain ⟨rest, htext⟩ := List.head?_eq_some_iff.1 hdot
    rw [← hahead.text_eq_of_nil] at htext hdigit
    obtain ⟨_, _, ⟨⟩, hbehind⟩ := bind_eq_ok_iff.1 hfraction
    obtain ⟨ds, _, hdigits, ⟨⟩⟩ := bind_eq_ok_iff.1 hbehind
    have hmark := Cursor.passes_advance (hahead.started.current_of_text_cons htext)
    rw [htext, List.getElem?_cons_succ, ← List.head?_eq_getElem?,
      ← hmark.text_eq_of_append htext] at hdigit
    obtain ⟨text, hpass, rfl, hgroup⟩ := digits_sound hmark.started hdigit hdigits
    exact ⟨_, (hahead.trans hmark).trans hpass, .present hgroup, fun _ => rfl⟩
  · rename_i hstarts
    cases hfraction
    exact ⟨[], hahead, .absent, fun hdot => absurd hdot hstarts⟩

theorem startsFraction_exponent {exponent? : Option Exponent}
    (h : ExponentText (DigitGroup 10) exponent? text) : startsFraction text = false := by
  cases text with
  | nil => rfl
  | cons ch rest =>
    have hne : ch ≠ '.' := h.forall_head (p := (· ≠ '.')) (by decide) (by decide) ch rfl
    simp [startsFraction, hne]

theorem fraction_complete {fraction? : Option (List Nat)} {exponent? : Option Exponent}
    (hfraction : FractionText (DigitGroup 10) fraction? text)
    (hexponent : ExponentText (DigitGroup 10) exponent? rest) (h : c.Started)
    (htext : c.text = text ++ rest) :
    ∃ c', fraction c = .ok fraction? c' ∧ c.Passes text c' := by
  have hahead := Cursor.passes_peek h 1
  rw [fraction_eq h, htext]
  cases hfraction with
  | absent =>
    rw [List.nil_append, startsFraction_exponent hexponent, if_neg Bool.false_ne_true]
    exact ⟨_, rfl, hahead⟩
  | @present text hgroup =>
    have hstarts : startsFraction ('.' :: text ++ rest) = true := by
      have hdigit := any_isDigit_of_group hgroup rest
      rw [List.head?_eq_getElem?] at hdigit
      simpa [startsFraction] using hdigit
    rw [if_pos hstarts]
    rw [← hahead.text_eq_of_nil] at htext
    have hmark := Cursor.passes_advance (hahead.started.current_of_text_cons htext)
    obtain ⟨c', hdigits, hpass⟩ := digitsFrom_complete hgroup (endsGroup_exponent hexponent) .start
      hmark.started (hmark.text_eq_of_append htext)
    refine ⟨c', bind_eq_ok_iff.2 ⟨(), _, rfl, bind_eq_ok_iff.2 ⟨_, c', hdigits, rfl⟩⟩, ?_⟩
    exact (hahead.trans hmark).trans hpass

/-- An exponent is its mark and its digits. -/
theorem exponentAhead_sound {negative : Bool} {width : Nat}
    (h : exponentAhead text = .digits negative width) :
    ∀ group, DigitGroup 10 group → ExponentText (DigitGroup 10)
      (some ⟨negative, digitsIn 10 group⟩) (text.take width ++ group) := by
  intro group hgroup
  cases text with
  | nil => cases h
  | cons letter text =>
    unfold exponentAhead at h
    split at h
    · rename_i hletter
      replace hletter : letter = 'e' ∨ letter = 'E' := by simpa using hletter
      split at h
      · rename_i hdigit
        cases h
        by_cases hsigned : text.head? = some '+' ∨ text.head? = some '-'
        · obtain ⟨sign, text, rfl, hsign⟩ :
              ∃ sign tail, text = sign :: tail ∧ (sign = '+' ∨ sign = '-') := by
            obtain hsign | hsign := hsigned
            · obtain ⟨tail, rfl⟩ := List.head?_eq_some_iff.1 hsign
              exact ⟨_, tail, rfl, .inl rfl⟩
            · obtain ⟨tail, rfl⟩ := List.head?_eq_some_iff.1 hsign
              exact ⟨_, tail, rfl, .inr rfl⟩
          have hwidth : signWidth (letter :: sign :: text) = 1 := by
            obtain rfl | rfl := hsign <;> rfl
          rw [hwidth]
          exact .signed hletter hsign hgroup
        · have hhead : text.head? = (letter :: text)[1]? := by
            rw [List.getElem?_cons_succ, List.head?_eq_getElem?]
          rw [hhead, not_or] at hsigned
          have hwidth : signWidth (letter :: text) = 0 := by
            rw [signWidth, beq_eq_false_iff_ne.2 hsigned.1, beq_eq_false_iff_ne.2 hsigned.2]
            rfl
          rw [hwidth, beq_eq_false_iff_ne.2 hsigned.2]
          exact .plain hletter hgroup
      · split at h
        · cases h
        · split at h <;> cases h
    · cases h

theorem exponent_sound {exponent? : Option Exponent} (h : c.Started)
    (hexponent : exponent c = .ok exponent? c') :
    ∃ text, c.Passes text c' ∧ ExponentText (DigitGroup 10) exponent? text := by
  obtain ⟨c₁, hahead, hcases⟩ := exponent_eq h
  rw [hexponent] at hcases
  cases hlook : exponentAhead c.text with
  | absent =>
    rw [hlook] at hcases
    cases hcases
    exact ⟨[], hahead, .absent⟩
  | broken kind width =>
    rw [hlook] at hcases
    cases hcases
  | digits negative width =>
    rw [hlook] at hcases
    have hdigit := (exponentAhead_eq_digits hlook).1
    obtain ⟨_, _, ⟨⟩, hbehind⟩ := bind_eq_ok_iff.1 hcases.symm
    obtain ⟨ds, _, hdigits, ⟨⟩⟩ := bind_eq_ok_iff.1 hbehind
    have hmark := Cursor.passes_advanceBy hahead.started width
    rw [← hahead.text_eq_of_nil, ← Nat.add_zero width, ← List.getElem?_drop,
      ← List.head?_eq_getElem?, ← Cursor.text_advanceBy hahead.started] at hdigit
    obtain ⟨text, hpass, rfl, hgroup⟩ := digits_sound hmark.started hdigit hdigits
    rw [hahead.text_eq_of_nil] at hmark
    exact ⟨_, (hahead.trans hmark).trans hpass, exponentAhead_sound hlook text hgroup⟩

/-- An exponent begins with a mark, and its digits behind that. -/
theorem exponentAhead_complete {e : Exponent} (h : ExponentText (DigitGroup 10) (some e) text) :
    ∃ mark group, text = mark ++ group ∧ DigitGroup 10 group ∧ e.digits = digitsIn 10 group ∧
      exponentAhead text = .digits e.negative mark.length := by
  cases h with
  | @plain letter group hletter hgroup =>
    refine ⟨[letter], group, rfl, hgroup, rfl, ?_⟩
    obtain ⟨ch, more, rfl, hdigit⟩ := hgroup.exists_cons
    have hdigit := isDigit_of_digitOf? hdigit
    have hne : ∀ {sign : Char}, sign.isDigit = false → ch ≠ sign := by
      rintro _ hsign rfl
      rw [hsign] at hdigit
      cases hdigit
    have hplus : (ch == '+') = false := beq_eq_false_iff_ne.2 (hne rfl)
    have hminus : (ch == '-') = false := beq_eq_false_iff_ne.2 (hne rfl)
    simp [exponentAhead, signWidth, hletter, hdigit, hplus, hminus]
  | @signed letter sign group hletter hsign hgroup =>
    refine ⟨[letter, sign], group, rfl, hgroup, rfl, ?_⟩
    obtain ⟨ch, more, rfl, hdigit⟩ := hgroup.exists_cons
    have hdigit := isDigit_of_digitOf? hdigit
    have hmark : (letter == 'e' || letter == 'E') = true := by simpa using hletter
    obtain rfl | rfl := hsign <;> simp [exponentAhead, signWidth, hmark, hdigit]

theorem exponent_complete {exponent? : Option Exponent}
    (hexponent : ExponentText (DigitGroup 10) exponent? text) (h : c.Started)
    (htext : c.text = text) :
    ∃ c', exponent c = .ok exponent? c' ∧ c.Passes text c' := by
  obtain ⟨c₁, hahead, hcases⟩ := exponent_eq h
  cases exponent? with
  | none =>
    cases hexponent
    rw [htext] at hcases
    exact ⟨c₁, hcases, hahead⟩
  | some e =>
    obtain ⟨mark, group, rfl, hgroup, hds, hlook⟩ := exponentAhead_complete hexponent
    rw [htext, hlook] at hcases
    rw [← hahead.text_eq_of_nil] at htext
    have hmark := Cursor.passes_advanceBy_length hahead.started ⟨group, htext.symm⟩
    obtain ⟨c', hdigits, hpass⟩ := digitsFrom_complete hgroup (endsGroup_nil _) .start
      hmark.started (by rw [hmark.text_eq_of_append htext, List.append_nil])
    refine ⟨c', ?_, (hahead.trans hmark).trans hpass⟩
    rw [hcases]
    refine bind_eq_ok_iff.2 ⟨(), _, rfl, bind_eq_ok_iff.2 ⟨_, c', hdigits, ?_⟩⟩
    rw [← hds]
    rfl

/-! ## Numbers -/

/-- A number without a marker begins with a digit, or with a dot and a digit. Neither another digit
nor a separator follows a zero. -/
structure BeginsDecimal (text : List Char) : Prop where
  begins : text.head?.any Char.isDigit = true ∨ startsFraction text = true
  zero : ∀ next rest, text = '0' :: next :: rest → next ≠ '_' ∧ next.isDigit = false

theorem BeginsDecimal.isWhole (h : BeginsDecimal (text ++ rest)) (hgroup : DigitGroup 10 text) :
    IsWhole text := by
  obtain ⟨first, more, rfl, hfirst⟩ := hgroup.exists_cons
  by_cases hzero : first = '0'
  · subst hzero
    cases more with
    | nil => exact .inl rfl
    | cons next more =>
      obtain ⟨hne, hnot⟩ := h.zero next _ rfl
      obtain hsep | hdigit := hgroup.tail_head next rfl
      · exact absurd hsep hne
      · rw [isDigit_of_digitOf? hdigit] at hnot
        cases hnot
  · refine .inr ⟨hgroup, ?_⟩
    rintro ⟨⟩
    exact hzero rfl

theorem decimal_sound {fraction? : Option (List Nat)} {exponent? : Option Exponent} (h : c.Started)
    (hbegins : BeginsDecimal c.text) (hwhole : whole c = .ok ds c₁)
    (hfraction : fraction c₁ = .ok fraction? c₂) (hexponent : exponent c₂ = .ok exponent? c') :
    ∃ text, c.Passes text c' ∧ (Numeral.decimal ds fraction? exponent?).WrittenAs text := by
  obtain ⟨first, hfirst, rfl, hgroup⟩ := whole_sound h hwhole
  obtain ⟨second, hsecond, hwritten, hstarts⟩ := fraction_sound hfirst.started hfraction
  obtain ⟨third, hthird, hwritten'⟩ := exponent_sound hsecond.started hexponent
  refine ⟨_, hfirst.trans (hsecond.trans hthird), ?_⟩
  split at hgroup
  · have hall := hfirst.text_eq ▸ hbegins
    exact .decimal (hall.isWhole hgroup) hwritten hwritten'
  · rename_i hnot
    subst hgroup
    have hdot := hbegins.begins.resolve_left hnot
    rw [← hfirst.text_eq_of_nil] at hdot
    cases hwritten with
    | absent => cases hstarts hdot
    | present hdigits => exact .fraction hdigits hwritten'

/-- The lexeme is that of a literal at the cursor, with a name behind it or not. -/
def FindsNumber (c : Cursor) (lexeme : Lexeme) (c' : Cursor) : Prop :=
  ∃ (n : Numeral) (text : List Char) (d : Cursor), c.Passes text d ∧ n.WrittenAs text ∧
    numberLexeme n.value d = .ok lexeme c'

theorem decimalNumber_sound (h : c.Started) (hbegins : BeginsDecimal c.text)
    (hscan : decimalNumber c = .ok lexeme c') : FindsNumber c lexeme c' := by
  obtain ⟨ds, c₁, hwhole, hbehind⟩ := bind_eq_ok_iff.1 hscan
  obtain ⟨fraction?, c₂, hfraction, hlast⟩ := bind_eq_ok_iff.1 hbehind
  obtain ⟨exponent?, d, hexponent, hlexeme⟩ := bind_eq_ok_iff.1 hlast
  obtain ⟨text, hpass, hwritten⟩ := decimal_sound h hbegins hwhole hfraction hexponent
  exact ⟨_, text, d, hpass, hwritten, hlexeme⟩

theorem basedNumber_sound {base : Base} {letter : Char} (h : c.Started)
    (htext : c.text = '0' :: letter :: rest) (hletter : Base.ofLetter? letter = some base)
    (hscan : basedNumber base c = .ok lexeme c') : FindsNumber c lexeme c' := by
  have hmark : c.Passes ['0', letter] (c.advanceBy 2) :=
    Cursor.passes_advanceBy_length h ⟨rest, htext.symm⟩
  obtain ⟨_, _, ⟨⟩, hbehind⟩ := bind_eq_ok_iff.1 hscan
  obtain ⟨start, _, ⟨⟩, hbehind⟩ := bind_eq_ok_iff.1 hbehind
  obtain ⟨ds, d, hdigits, hlast⟩ := bind_eq_ok_iff.1 hbehind
  obtain ⟨text, hpass, rfl, rfl | hgroup⟩ := digitsFrom_sound .start hmark.started hdigits
  · cases hlast
  · have hne : (digitsIn base.radix text).isEmpty = false := by
      simpa using hgroup.digitsIn_ne_nil
    rw [if_neg (ne_true_of_eq_false hne)] at hlast
    exact ⟨_, _, d, hmark.trans hpass, .based hletter hgroup, hlast⟩

/-- Where nothing follows a number, there is nothing to spoil it. -/
theorem numberLexeme_of_end (value : LiteralValue) (h : c.Started) (htext : c.text = []) :
    numberLexeme value c = .ok { kind := numberKind value, value? := some value } c := by
  rw [numberLexeme_eq value h, htext]
  rfl

theorem decimal_complete {whole fraction : List Char} {fraction? : Option (List Nat)}
    {exponent? : Option Exponent} (hwhole : Scanner.whole c = .ok ds c₁) (hpass : c.Passes whole c₁)
    (hfraction : FractionText (DigitGroup 10) fraction? fraction)
    (hexponent : ExponentText (DigitGroup 10) exponent? text)
    (htext : c.text = whole ++ (fraction ++ text)) :
    ∃ c', decimalNumber c = .ok {
          kind := numberKind (Numeral.decimal ds fraction? exponent?).value
          value? := some (Numeral.decimal ds fraction? exponent?).value } c' ∧
      c.Passes (whole ++ (fraction ++ text)) c' := by
  obtain ⟨c₂, hsecond, hpass₂⟩ :=
    fraction_complete hfraction hexponent hpass.started (hpass.text_eq_of_append htext)
  have htext₂ := hpass₂.text_eq_of_append (hpass.text_eq_of_append htext)
  obtain ⟨c₃, hthird, hpass₃⟩ := exponent_complete hexponent hpass₂.started htext₂
  have hend : c₃.text = [] :=
    hpass₃.text_eq_of_append (htext₂.trans (List.append_nil text).symm)
  refine ⟨c₃, ?_, hpass.trans (hpass₂.trans hpass₃)⟩
  refine bind_eq_ok_iff.2 ⟨_, c₁, hwhole, bind_eq_ok_iff.2 ⟨_, c₂, hsecond, ?_⟩⟩
  exact bind_eq_ok_iff.2 ⟨_, c₃, hthird, numberLexeme_of_end _ hpass₃.started hend⟩

theorem basedNumber_complete {base : Base} {letter : Char} (hgroup : DigitGroup base.radix text)
    (h : c.Started) (htext : c.text = '0' :: letter :: text) :
    ∃ c', basedNumber base c = .ok {
          kind := numberKind (Numeral.based base (digitsIn base.radix text)).value
          value? := some (Numeral.based base (digitsIn base.radix text)).value } c' ∧
      c.Passes ('0' :: letter :: text) c' := by
  have hmark : c.Passes ['0', letter] (c.advanceBy 2) :=
    Cursor.passes_advanceBy_length h ⟨text, htext.symm⟩
  have hbehind : (c.advanceBy 2).text = text ++ [] := by
    rw [hmark.text_eq_of_append htext, List.append_nil]
  obtain ⟨c', hdigits, hpass⟩ :=
    digitsFrom_complete hgroup (endsGroup_nil _) .start hmark.started hbehind
  have hne : (digitsIn base.radix text).isEmpty = false := by
    simpa using hgroup.digitsIn_ne_nil
  refine ⟨c', ?_, hmark.trans hpass⟩
  refine bind_eq_ok_iff.2 ⟨(), _, rfl, bind_eq_ok_iff.2 ⟨_, _, rfl, ?_⟩⟩
  refine bind_eq_ok_iff.2 ⟨_, c', hdigits, ?_⟩
  rw [if_neg (ne_true_of_eq_false hne)]
  exact numberLexeme_of_end _ hpass.started (hpass.text_eq_of_append hbehind)

end Scanner

/-! ## The openings of numbers -/

namespace Opening

variable {ch : Char} {text rest : List Char}

theorem beginsDecimal_of (h : Opening.of ch (rest.take 3) = .number) :
    Scanner.BeginsDecimal (ch :: rest) where
  begins := by
    obtain hdigit | ⟨rfl, hdigit⟩ := of_eq_number h
    · exact .inl hdigit
    · cases rest with
      | nil => cases hdigit
      | cons next rest => exact .inr hdigit
  zero := by
    rintro next rest ⟨⟩
    cases h ▸ found_of '0' ((next :: rest).take 3) with
    | number _ hzero => exact hzero next _ rfl rfl

/-- What follows a zero that is all of the digits before the dot leaves it a number. -/
theorem of_zero {fraction exponent : List Char} {fraction? : Option (List Nat)}
    {exponent? : Option Exponent} (hfraction : FractionText (DigitGroup 10) fraction? fraction)
    (hexponent : ExponentText (DigitGroup 10) exponent? exponent) :
    Opening.of '0' ((fraction ++ exponent).take 3) = .number := by
  have hhead := hfraction.forall_head hexponent (p := fun ch => ofZero ch = .number) rfl rfl rfl
  cases hrest : fraction ++ exponent with
  | nil => rfl
  | cons next rest => exact hhead next (hrest ▸ rfl)

theorem of_fraction (h : DigitGroup 10 text) (rest : List Char) :
    Opening.of '.' ((text ++ rest).take 3) = .number := by
  obtain ⟨first, more, rfl, hfirst⟩ := h.exists_cons
  exact if_pos (isDigit_of_digitOf? hfirst)

end Opening

namespace Lexer

variable {c c' : Cursor} {ch : Char} {text : List Char} {lexeme : Lexeme}

/-- What is scanned as a number is a literal of the grammar. -/
theorem scanAt_sound (hcur : c.current = .scalar ch) (hscan : scanAt c ch = .ok lexeme c')
    (hopening : Opening.of ch (c.lookahead 3).1 = .number ∨
      ∃ base, Opening.of ch (c.lookahead 3).1 = .basedNumber base) :
    Scanner.FindsNumber c lexeme c' := by
  have hahead := Cursor.passes_lookahead (.of_scalar hcur) 3
  have htext := Cursor.text_of_scalar hcur
  rw [← hahead.text_eq_of_nil] at htext
  have hfound : Scanner.FindsNumber (c.lookahead 3).2 lexeme c' := by
    obtain hnumber | ⟨base, hbased⟩ := hopening
    · rw [scanAt, hnumber] at hscan
      rw [c.lookahead_fst] at hnumber
      have hbegins := Opening.beginsDecimal_of hnumber
      rw [← htext] at hbegins
      exact Scanner.decimalNumber_sound hahead.started hbegins hscan
    · have hsees := Opening.sees_of ch (c.lookahead 3).1
      rw [scanAt, hbased] at hscan
      rw [hbased, c.lookahead_fst] at hsees
      obtain ⟨rfl, letter, hnext, hletter⟩ := hsees
      cases hrest : c.upcoming with
      | nil =>
        rw [hrest] at hnext
        cases hnext
      | cons next rest =>
        rw [hrest] at hnext htext
        cases hnext
        exact Scanner.basedNumber_sound hahead.started htext hletter hscan
  obtain ⟨n, text, d, hpass, hrest⟩ := hfound
  exact ⟨n, text, d, hahead.trans hpass, hrest⟩

/-- A literal that is all of the text is scanned to its end. -/
theorem scanAt_complete {n : Numeral} (hwritten : n.WrittenAs (ch :: text)) (h : c.Started)
    (htext : c.text = ch :: text) :
    ∃ c', scanAt c ch =
        .ok { kind := Scanner.numberKind n.value, value? := some n.value } c' ∧
      c.Passes (ch :: text) c' := by
  have hahead := Cursor.passes_lookahead h 3
  rw [← hahead.text_eq_of_nil] at htext
  have hscan : ∃ c', (Opening.of ch (text.take 3)).scanner (c.lookahead 3).2 =
        .ok { kind := Scanner.numberKind n.value, value? := some n.value } c' ∧
      (c.lookahead 3).2.Passes (ch :: text) c' := by
    generalize hall : ch :: text = all at hwritten htext
    cases hwritten with
    | @based base letter group hletter hgroup =>
      cases hall
      have hopening : Opening.of '0' ((letter :: group).take 3) = .basedNumber base := by
        show Opening.ofZero letter = _
        rw [Opening.ofZero, hletter]
      rw [hopening]
      exact Scanner.basedNumber_complete hgroup hahead.started htext
    | @decimal whole fraction exponent fraction? exponent? hwhole hfraction hexponent =>
      have hopening : Opening.of ch (text.take 3) = .number := by
        obtain rfl | ⟨hgroup, hzero⟩ := hwhole
        · cases hall
          show Opening.of '0' ((fraction ++ exponent).take 3) = _
          exact Opening.of_zero hfraction hexponent
        · obtain ⟨first, more, rfl, hfirst⟩ := hgroup.exists_cons
          cases hall
          refine Opening.of_eq_number_of_isDigit (isDigit_of_digitOf? hfirst) ?_
          rintro rfl
          exact absurd rfl hzero
      have hends := Scanner.endsGroup_fraction hfraction hexponent
      obtain ⟨c₁, hfound, hpass⟩ :=
        Scanner.whole_complete (hwhole.group) hends hahead.started htext
      rw [hopening]
      exact Scanner.decimal_complete hfound hpass hfraction hexponent htext
    | @fraction fraction exponent exponent? hfraction hexponent =>
      cases hall
      have hnone : Scanner.whole (c.lookahead 3).2 = .ok [] (c.lookahead 3).2 := by
        rw [Scanner.whole_eq hahead.started, htext]
        rfl
      rw [Opening.of_fraction hfraction exponent]
      exact Scanner.decimal_complete hnone (.refl hahead.started) (.present hfraction) hexponent
        htext
  obtain ⟨c', hfound, hpass⟩ := hscan
  refine ⟨c', ?_, hahead.trans hpass⟩
  have hupcoming : c.upcoming = text := by
    rw [h.upcoming_eq_tail, ← hahead.text_eq_of_nil, htext]
    rfl
  rw [scanAt, c.lookahead_fst, hupcoming]
  exact hfound

end Lexer

end Lexis
