import Lexis.Proofs.Beside.Basic
import Lexis.Proofs.Scanner.Numbers

/-!
# Numbers agree

The parts of a number are decided on by one, two or three code points. Where those reach into what
is behind the common text, there is nothing to be found in front of a line feed, a closing brace or
the end, and the part that has been found reaches into what is behind as well.
-/

namespace Lexis

open CharClass

namespace Scanner

variable {i j : Nat} {x y u passed : List Char} {c d c' : Cursor} {ch : Char}

/-! ## Digits -/

theorem digitsFrom_of_scalar (radix : Nat) (place : GroupPlace) (h : c.current = .scalar ch) :
    digitsFrom radix place c =
      if ch = '_' then
        match place with
        | .afterSeparator => .error (.atOffset .consecutiveUnderscores c.index) c
        | .start => .error (.atOffset .leadingUnderscore c.index) c
        | .afterDigit => digitsFrom radix .afterSeparator c.advance
      else
        match digitOf? radix ch with
        | some n =>
          match digitsFrom radix .afterDigit c.advance with
          | .ok ns c' => .ok (n :: ns) c'
          | .error e c' => .error e c'
        | none =>
          if radix ≠ 10 ∧ (digitValue? ch).isSome then
            .error (.between (.invalidDigit ch radix) c.index (c.index + 1)) c
          else digitsEnd place c := by
  have hdef := digitsFrom_def radix place c
  rw [h] at hdef
  exact hdef

theorem digitsFrom_of_text_nil (radix : Nat) (place : GroupPlace) (h : c.text = []) :
    digitsFrom radix place c = digitsEnd place c := by
  rw [digitsFrom.eq_def]
  split
  · rename_i ch hcur
    rw [Cursor.text_of_scalar hcur] at h
    cases h
  · rfl

theorem digitsFrom_of_detached (radix : Nat) (place : GroupPlace) (hstart : c.Started)
    (h : Detached c.text) : digitsFrom radix place c = digitsEnd place c := by
  have hnone : ∀ ch, digitValue? ch = none → digitOf? radix ch = none := by
    intro ch hch
    rw [digitOf?, hch]
    rfl
  cases htext : c.text with
  | nil => exact digitsFrom_of_text_nil radix place htext
  | cons ch text =>
    rw [digitsFrom_of_scalar radix place (hstart.current_of_text_cons htext)]
    rw [htext] at h
    cases h with
    | lineFeed => simp [hnone '\n' (by decide), show digitValue? '\n' = none by decide]
    | closeBrace => simp [hnone '\x7d' (by decide), show digitValue? '\x7d' = none by decide]

theorem agree_digitsEnd {place : GroupPlace} (h : Beside i j x y u c d)
    (hplace : place = .afterSeparator → 1 ≤ c.index ∧ 1 ≤ d.index) :
    Agree i j x y Eq (digitsEnd place c) (digitsEnd place d) := by
  unfold digitsEnd
  split
  · rename_i hsep
    obtain ⟨hpos, hpos'⟩ := hplace hsep
    have hindex := h.index_eq
    refine .of_error ?_
    rw [LexError.shift_atOffset, LexError.shift_atOffset]
    congr 1
    omega
  · exact .of_ok h rfl

/-- What gets closer to the end has passed something. -/
theorem length_pos_of_remaining_lt (hstart : c.Started) (h : c.Passes passed c')
    (hlt : c'.remaining < c.remaining) : 0 < passed.length := by
  cases passed with
  | nil => exact absurd (h.remaining_eq_of_nil hstart) (Nat.ne_of_lt hlt)
  | cons ch passed => exact Nat.succ_pos _

/-- Digits behind a code point of a number are passed together with it. -/
theorem digitsFrom_advance_eq_ok {radix : Nat} {place : GroupPlace} {ns : List Nat}
    (hcur : c.current = .scalar ch) (hch : isNumberChar ch = true)
    (hplace : place = .afterSeparator → ch = '_')
    (h : digitsFrom radix place c.advance = .ok ns c') :
    ∃ passed, c.Passes passed c' ∧ 0 < passed.length := by
  have hstart := Cursor.Started.of_scalar hcur
  have hends := endsNumber_digitsFrom radix place ((NumberTo.refl hstart).advance hcur hch)
    fun hsep => ⟨c, .refl hstart, hplace hsep ▸ Cursor.passes_advance hcur⟩
  have hle := cursorAfter_digitsFrom_le radix place c.advance
  rw [h] at hends hle
  obtain ⟨passed, hpass, -⟩ := hends
  have hlt := Nat.lt_of_le_of_lt hle (Cursor.remaining_advance_lt hcur)
  exact ⟨passed, hpass, length_pos_of_remaining_lt hstart hpass hlt⟩

/-- Where the common text ends, so do the digits, unless they reach into what is behind it. -/
theorem agree_digitsFrom_nil (radix : Nat) (place : GroupPlace) (h : Beside i j x y [] c d)
    (hplace : place = .afterSeparator → 1 ≤ c.index ∧ 1 ≤ d.index) :
    Agree i j x y Eq (digitsFrom radix place c) (digitsFrom radix place d) := by
  have hbehind : digitsFrom radix place d = digitsEnd place d :=
    digitsFrom_of_detached radix place h.started' (h.text_eq' ▸ h.detached)
  have hend := agree_digitsEnd h hplace
  cases htext : c.text with
  | nil => rwa [digitsFrom_of_text_nil radix place htext, hbehind]
  | cons ch text =>
    have hcur := h.started.current_of_text_cons htext
    have hx : x ≠ [] := by
      rintro rfl
      rw [h.text_eq] at htext
      cases htext
    rw [digitsFrom_of_scalar radix place hcur]
    split
    · rename_i hsep
      cases place with
      | afterSeparator => exact .of_cut hx
      | start => exact .of_cut hx
      | afterDigit =>
        refine .of_beyond h hx fun ns c' hok => ?_
        exact digitsFrom_advance_eq_ok hcur (hsep ▸ rfl) (fun _ => hsep) hok
    · split
      · rename_i n hn
        split
        · rename_i ns c' hok
          refine .of_beyond h hx fun _ _ heq => ?_
          cases heq
          refine digitsFrom_advance_eq_ok hcur (isNumberChar_of_digitOf? hn) ?_ hok
          exact fun hplace => by cases hplace
        · exact .of_cut hx
      · split
        · exact .of_cut hx
        · rwa [hbehind]

theorem agree_digitsFrom (radix : Nat) (place : GroupPlace) (h : Beside i j x y u c d)
    (hplace : place = .afterSeparator → 1 ≤ c.index ∧ 1 ≤ d.index) :
    Agree i j x y Eq (digitsFrom radix place c) (digitsFrom radix place d) := by
  induction u generalizing place c d with
  | nil => exact agree_digitsFrom_nil radix place h hplace
  | cons ch u ih =>
    obtain ⟨hcur, hcur', hstep⟩ := h.advance
    have hindex := h.index_eq
    rw [digitsFrom_of_scalar radix place hcur, digitsFrom_of_scalar radix place hcur']
    split
    · cases place with
      | afterSeparator | start =>
        refine .of_error ?_
        rw [LexError.shift_atOffset, LexError.shift_atOffset, hindex]
      | afterDigit =>
        refine ih .afterSeparator hstep fun _ => ?_
        have hpos := Cursor.index_lt_nextOffset_of_scalar hcur
        have hpos' := Cursor.index_lt_nextOffset_of_scalar hcur'
        rw [Cursor.index_advance, Cursor.index_advance]
        omega
    · cases digitOf? radix ch with
      | some n =>
        have hrest := ih .afterDigit hstep fun hplace => by cases hplace
        simp only
        cases hc : digitsFrom radix .afterDigit c.advance with
        | ok ns c' =>
          rw [hc] at hrest
          intro more hmore
          obtain ⟨_, d', hd, rfl, hbeside⟩ := hrest more hmore
          exact ⟨_, d', by rw [hd], rfl, hbeside⟩
        | error e c' =>
          rw [hc] at hrest
          intro hx hy
          obtain ⟨e', d', hd, he⟩ := hrest hx hy
          exact ⟨e', d', by rw [hd], he⟩
      | none =>
        simp only
        split
        · refine .of_error ?_
          rw [LexError.shift_between, LexError.shift_between, hindex, Nat.add_right_comm, hindex,
            Nat.add_right_comm]
        · exact agree_digitsEnd h hplace

theorem agree_digits (radix : Nat) (h : Beside i j x y u c d) :
    Agree i j x y Eq (digits radix c) (digits radix d) :=
  agree_digitsFrom radix .start h nofun

theorem passing_digits (radix : Nat) : Passing (digits radix) := by
  intro c ns c' hstart hdigits
  obtain ⟨passed, hpass, -⟩ := (keepsNumber_digits radix (.refl hstart)).of_ok hdigits
  exact ⟨passed, hpass⟩

/-! ## The parts of a number -/

theorem digits_eq_ok {radix : Nat} {ns : List Nat} (hstart : c.Started)
    (hdigit : ∃ ch, c.text.head? = some ch ∧ (digitOf? radix ch).isSome)
    (h : digits radix c = .ok ns c') : ∃ passed, c.Passes passed c' ∧ 0 < passed.length := by
  obtain ⟨ch, hhead, hch⟩ := hdigit
  obtain ⟨text, htext⟩ := List.head?_eq_some_iff.1 hhead
  obtain ⟨passed, hpass⟩ := passing_digits radix c ns c' hstart h
  have hlt := consumes_digits (hstart.current_of_text_cons htext) hch _ _ h
  exact ⟨passed, hpass, length_pos_of_remaining_lt hstart hpass hlt⟩

theorem isSome_of_any_isDigit {ch? : Option Char} (h : ch?.any Char.isDigit = true) :
    ∃ ch, ch? = some ch ∧ (digitOf? 10 ch).isSome := by
  cases ch? with
  | none => cases h
  | some ch => exact ⟨ch, rfl, isSome_digitOf?_ten h⟩

theorem whole_eq (h : c.Started) :
    whole c = if c.text.head?.any Char.isDigit then digits 10 c else .ok [] c := by
  rw [← h.toChar?_current]
  show (if c.current.toChar?.any Char.isDigit then digits 10 else pure [] : Scanner _) c = _
  split <;> rfl

theorem passing_whole : Passing whole := by
  intro c ns c' hstart h
  obtain ⟨passed, hpass, -⟩ := (keepsNumber_whole (.refl hstart)).of_ok h
  exact ⟨passed, hpass⟩

theorem agree_whole (h : Beside i j x y u c d) : Agree i j x y Eq (whole c) (whole d) := by
  rw [whole_eq h.started, whole_eq h.started', h.text_eq, h.text_eq']
  cases u with
  | nil =>
    rw [List.nil_append, List.nil_append, h.detached.any_head? rfl rfl]
    split
    · rename_i hdigit
      have hx : x ≠ [] := by
        rintro rfl
        cases hdigit
      refine .of_beyond h hx fun ns c' hok => digits_eq_ok h.started ?_ hok
      rw [h.text_eq]
      exact isSome_of_any_isDigit hdigit
    · exact .of_ok h rfl
  | cons ch u =>
    rw [List.cons_append, List.cons_append, List.head?_cons, List.head?_cons]
    split
    · exact agree_digits 10 h
    · exact .of_ok h rfl

/-- A dot and a digit. -/
def startsFraction (text : List Char) : Bool :=
  text[0]? == some '.' && text[1]?.any Char.isDigit

/-- The digits of a fraction, behind its dot. -/
def fractionDigits : Scanner (Option (List Nat)) := do
  skip 1
  let ns ← digits 10
  return some ns

theorem fraction_eq (h : c.Started) :
    fraction c = if startsFraction c.text then fractionDigits (c.peek 1).2
      else .ok none (c.peek 1).2 := by
  rw [startsFraction, ← CodePoint.is_ofChar?, ← h.current_eq_head,
    ← h.toChar?_peek 1 (by decide)]
  show (if c.current.is '.' && (c.peek 1).1.toChar?.any Char.isDigit then fractionDigits
    else pure none : Scanner _) (c.peek 1).2 = _
  split <;> rfl

theorem passing_fraction : Passing fraction := by
  intro c ns? c' hstart h
  obtain ⟨passed, hpass, -⟩ := (keepsNumber_fraction (.refl hstart)).of_ok h
  exact ⟨passed, hpass⟩

theorem fractionDigits_eq_ok {ns? : Option (List Nat)} (hstart : c.Started)
    (hdot : startsFraction c.text = true) (h : fractionDigits c = .ok ns? c') :
    ∃ passed, c.Passes passed c' ∧ 1 < passed.length := by
  obtain ⟨dot, hdigit⟩ := Bool.and_eq_true_iff.1 hdot
  obtain ⟨_, _, ⟨⟩, hrest⟩ := bind_eq_ok_iff.1 h
  obtain ⟨ns, _, hdigits, ⟨⟩⟩ := bind_eq_ok_iff.1 hrest
  have hhead := beq_iff_eq.1 dot
  rw [← List.head?_eq_getElem?] at hhead
  obtain ⟨text, htext⟩ := List.head?_eq_some_iff.1 hhead
  have hfirst := Cursor.passes_advance (hstart.current_of_text_cons htext)
  rw [htext, List.getElem?_cons_succ, ← List.head?_eq_getElem?,
    ← hfirst.text_eq_of_append htext] at hdigit
  obtain ⟨passed, hpass, hpos⟩ :=
    digits_eq_ok hfirst.started (isSome_of_any_isDigit hdigit) hdigits
  exact ⟨_, hfirst.trans hpass, Nat.succ_lt_succ hpos⟩

theorem startsFraction_append {u : List Char} (hy : Detached y) (hlt : u.length < 2) :
    startsFraction (u ++ y) = false := by
  match u with
  | [] => cases hy <;> rfl
  | [ch] =>
    have hnot := hy.any_head? (p := Char.isDigit) rfl rfl
    rw [List.head?_eq_getElem?] at hnot
    simp [startsFraction, hnot]

theorem agree_fraction (h : Beside i j x y u c d) :
    Agree i j x y Eq (fraction c) (fraction d) := by
  have hahead := h.ahead (Cursor.passes_peek h.started 1) (Cursor.passes_peek h.started' 1)
  rw [fraction_eq h.started, fraction_eq h.started', h.text_eq, h.text_eq']
  generalize (c.peek 1).2 = c at *
  generalize (d.peek 1).2 = d at *
  match u with
  | dot :: ch :: u =>
    have hsame : startsFraction (dot :: ch :: u ++ x) = startsFraction (dot :: ch :: u ++ y) := rfl
    rw [hsame]
    split
    · have hdigits := agree_digits 10 (hahead.advanceBy [dot])
      exact hdigits.map fun _ _ => congrArg some
    · exact .of_ok hahead rfl
  | [] | [_] =>
    rw [startsFraction_append h.detached (by simp)]
    split
    · rename_i hdot
      refine .of_beyond hahead ?_ fun ns? c' hok => ?_
      · rintro rfl
        rw [startsFraction_append .nil (by simp)] at hdot
        cases hdot
      · rw [← hahead.text_eq] at hdot
        obtain ⟨passed, hpass, hlt⟩ := fractionDigits_eq_ok hahead.started hdot hok
        exact ⟨passed, hpass, Nat.lt_of_le_of_lt (by simp) hlt⟩
    · exact .of_ok hahead rfl

/-- What an exponent looks like from its first code point. -/
inductive ExponentAhead where
  | absent
  /-- Something is missing, so many code points on. -/
  | broken (kind : LexErrorKind) (width : Nat)
  /-- Digits, so many code points on. -/
  | digits (negative : Bool) (width : Nat)
  deriving DecidableEq

/-- The number of signs behind the first code point of a text, which is one at most. -/
def signWidth (text : List Char) : Nat := (text[1]? == some '+' || text[1]? == some '-').toNat

/-- What the exponent at the beginning of a text looks like. -/
def exponentAhead (text : List Char) : ExponentAhead :=
  if text[0]? == some 'e' || text[0]? == some 'E' then
    if text[1 + signWidth text]?.any Char.isDigit then
      .digits (text[1]? == some '-') (1 + signWidth text)
    else if text[1 + signWidth text]? == some '_' then
      .broken .leadingUnderscore (1 + signWidth text)
    else if signWidth text = 1 then .broken .missingExponentDigits (1 + signWidth text)
    else .absent
  else .absent

/-- The digits of an exponent, behind its letter and its sign. -/
def exponentDigits (negative : Bool) (width : Nat) : Scanner (Option Exponent) := do
  skip width
  let ns ← Scanner.digits 10
  return some ⟨negative, ns⟩

theorem exponent_eq (h : c.Started) : ∃ c', c.Passes [] c' ∧ exponent c =
    match exponentAhead c.text with
    | .absent => .ok none c'
    | .broken kind width => .error (.atOffset kind (c.index + width)) c'
    | .digits negative width => exponentDigits negative width c' := by
  have hletter : (c.current.is 'e' || c.current.is 'E') =
      (c.text[0]? == some 'e' || c.text[0]? == some 'E') := by
    rw [h.current_eq_head, CodePoint.is_ofChar?, CodePoint.is_ofChar?]
  by_cases hmark : (c.current.is 'e' || c.current.is 'E') = true
  · have hsign : ∀ ch, (c.peek 1).1.is ch = (c.text[1]? == some ch) := by
      intro ch
      rw [h.peek_eq 1 (by decide), CodePoint.is_ofChar?]
    let sign := signWidth c.text
    have hnext := Cursor.passes_peek h 1
    have hahead := hnext.trans (Cursor.passes_peek hnext.started (1 + sign))
    have hfirst : ((c.peek 1).2.peek (1 + sign)).1 = .ofChar? c.text[1 + sign]? := by
      rw [hnext.started.peek_eq (1 + sign) (Cursor.one_add_toNat_le _), hnext.text_eq_of_nil]
    refine ⟨_, hahead, ?_⟩
    have hexponent : exponent c =
        (if ((c.peek 1).2.peek (1 + sign)).1.toChar?.any Char.isDigit then
            exponentDigits (c.text[1]? == some '-') (1 + sign)
          else if ((c.peek 1).2.peek (1 + sign)).1.is '_' then
            fail (.atOffset .leadingUnderscore (((c.peek 1).2.peek (1 + sign)).2.index + 1 + sign))
          else if sign = 1 then
            fail (.atOffset .missingExponentDigits
              (((c.peek 1).2.peek (1 + sign)).2.index + 1 + sign))
          else pure none : Scanner (Option Exponent)) ((c.peek 1).2.peek (1 + sign)).2 := by
      simp only [sign, signWidth, ← hsign]
      show (if c.current.is 'e' || c.current.is 'E' then _ else _ : Scanner _) c = _
      rw [if_pos hmark]
      rfl
    have htext : exponentAhead c.text =
        if c.text[1 + sign]?.any Char.isDigit then .digits (c.text[1]? == some '-') (1 + sign)
        else if c.text[1 + sign]? == some '_' then .broken .leadingUnderscore (1 + sign)
        else if sign = 1 then .broken .missingExponentDigits (1 + sign)
        else .absent := if_pos (hletter.symm.trans hmark)
    rw [hexponent, htext, hfirst, CodePoint.toChar?_ofChar?, CodePoint.is_ofChar?,
      hahead.index_eq_of_nil, Nat.add_assoc]
    by_cases hdigit : c.text[1 + sign]?.any Char.isDigit = true
    · rw [if_pos hdigit, if_pos hdigit]
    · rw [if_neg hdigit, if_neg hdigit]
      by_cases hsep : (c.text[1 + sign]? == some '_') = true
      · rw [if_pos hsep, if_pos hsep]
        rfl
      · rw [if_neg hsep, if_neg hsep]
        by_cases hsigned : sign = 1
        · rw [if_pos hsigned, if_pos hsigned]
          rfl
        · rw [if_neg hsigned, if_neg hsigned]
          rfl
  · refine ⟨c, .refl h, ?_⟩
    have htext : exponentAhead c.text = .absent := if_neg (mt hletter.trans hmark)
    rw [htext]
    show (if c.current.is 'e' || c.current.is 'E' then _ else _ : Scanner _) c = _
    rw [if_neg hmark]
    rfl

theorem passing_exponent : Passing exponent := by
  intro c e? c' hstart h
  obtain ⟨passed, hpass, -⟩ := (keepsNumber_exponent (.refl hstart)).of_ok h
  exact ⟨passed, hpass⟩

theorem exponentAhead_eq_digits {text : List Char} {negative : Bool} {width : Nat}
    (h : exponentAhead text = .digits negative width) :
    text[width]?.any Char.isDigit = true ∧ ∀ text' : List Char,
      (∀ k ≤ width, text'[k]? = text[k]?) → exponentAhead text' = .digits negative width := by
  unfold exponentAhead at h
  split at h
  · rename_i hletter
    split at h
    · rename_i hdigit
      cases h
      refine ⟨hdigit, fun text' hsame => ?_⟩
      have hsign : text'[1]? = text[1]? := hsame 1 (Nat.le_add_right 1 _)
      have hwidth : signWidth text' = signWidth text := by rw [signWidth, hsign, signWidth]
      rw [exponentAhead, hsame 0 (Nat.zero_le _), if_pos hletter, hwidth,
        hsame _ (Nat.le_refl _), if_pos hdigit, hsign]
    · split at h
      · cases h
      · split at h <;> cases h
  · cases h

/-- Where no exponent begins, a text that ends there does not make one begin. -/
theorem exponentAhead_eq_absent (hy : Detached y) (h : exponentAhead (u ++ x) = .absent) :
    exponentAhead (u ++ y) = .absent := by
  match u with
  | [] => cases hy <;> rfl
  | [letter] =>
    have hnext : exponentAhead (letter :: y) = .absent := by
      cases hy <;> simp [exponentAhead, signWidth]
    exact hnext
  | letter :: sign :: u =>
    have hwidth : signWidth (letter :: sign :: u ++ x) = signWidth (letter :: sign :: u ++ y) := rfl
    unfold exponentAhead at h ⊢
    rw [hwidth] at h
    cases hsigned : signWidth (letter :: sign :: u ++ y) with
    | zero =>
      rw [hsigned] at h
      exact h
    | succ n =>
      -- A letter with a sign behind it is never left alone.
      have hone : signWidth (letter :: sign :: u ++ y) = 1 := by
        have hle := Bool.toNat_le (sign == '+' || sign == '-')
        have hsame : signWidth (letter :: sign :: u ++ y) = (sign == '+' || sign == '-').toNat := by
          simp [signWidth]
        omega
      rw [if_neg]
      intro hletter
      have hletter' : ((letter :: sign :: u ++ x)[0]? == some 'e' ||
          (letter :: sign :: u ++ x)[0]? == some 'E') = true := hletter
      rw [if_pos hletter', hone, if_pos rfl] at h
      split at h
      · cases h
      · split at h <;> cases h

theorem exponentDigits_eq_ok {negative : Bool} {width : Nat} {e? : Option Exponent}
    (hstart : c.Started) (hdigit : c.text[width]?.any Char.isDigit = true)
    (h : exponentDigits negative width c = .ok e? c') :
    ∃ passed, c.Passes passed c' ∧ width < passed.length := by
  obtain ⟨_, _, ⟨⟩, hrest⟩ := bind_eq_ok_iff.1 h
  obtain ⟨ns, _, hdigits, ⟨⟩⟩ := bind_eq_ok_iff.1 hrest
  have hmark := Cursor.passes_advanceBy hstart width
  rw [← Nat.add_zero width, ← List.getElem?_drop, ← List.head?_eq_getElem?,
    ← Cursor.text_advanceBy hstart] at hdigit
  obtain ⟨passed, hpass, hpos⟩ :=
    digits_eq_ok hmark.started (isSome_of_any_isDigit hdigit) hdigits
  refine ⟨_, hmark.trans hpass, ?_⟩
  have hlt : width < c.text.length := by
    apply Nat.lt_of_not_le
    intro hle
    rw [Cursor.text_advanceBy hstart, List.drop_eq_nil_of_le hle] at hdigit
    cases hdigit
  rw [List.length_append, List.length_take, Nat.min_eq_left (Nat.le_of_lt hlt)]
  exact Nat.lt_add_of_pos_right hpos

theorem agree_exponent (h : Beside i j x y u c d) :
    Agree i j x y Eq (exponent c) (exponent d) := by
  obtain ⟨c₁, hc, hcases⟩ := exponent_eq h.started
  obtain ⟨d₁, hd, hcases'⟩ := exponent_eq h.started'
  have hahead := h.ahead hc hd
  rw [hcases, hcases', h.text_eq, h.text_eq']
  cases hlook : exponentAhead (u ++ x) with
  | absent =>
    rw [exponentAhead_eq_absent h.detached hlook]
    exact .of_ok hahead rfl
  | broken kind width =>
    rintro rfl rfl
    rw [hlook]
    refine ⟨_, d₁, rfl, ?_⟩
    rw [LexError.shift_atOffset, LexError.shift_atOffset, Nat.add_right_comm, h.index_eq,
      Nat.add_right_comm]
  | digits negative width =>
    obtain ⟨hdigit, hsame⟩ := exponentAhead_eq_digits hlook
    by_cases hlt : width < u.length
    · have hsplit : u = u.take width ++ u.drop width := (List.take_append_drop width u).symm
      have hlength : (u.take width).length = width := by
        rw [List.length_take, Nat.min_eq_left (Nat.le_of_lt hlt)]
      rw [hsame (u ++ y) fun k hk => ?_]
      · rw [hsplit] at hahead
        have hbehind := hahead.advanceBy (u.take width)
        rw [hlength] at hbehind
        exact (agree_digits 10 hbehind).map fun _ _ heq => by rw [heq]
      · have hk' : k < u.length := Nat.lt_of_le_of_lt hk hlt
        rw [List.getElem?_append_left hk', List.getElem?_append_left hk']
    · refine .of_beyond hahead ?_ fun e? c' hok => ?_
      · rintro rfl
        rw [List.append_nil, List.getElem?_eq_none (Nat.le_of_not_lt hlt)] at hdigit
        cases hdigit
      · rw [← hahead.text_eq] at hdigit
        obtain ⟨passed, hpass, hlong⟩ := exponentDigits_eq_ok hahead.started hdigit hok
        exact ⟨passed, hpass, Nat.lt_of_le_of_lt (Nat.le_of_not_lt hlt) hlong⟩

/-! ## Whole numbers -/

/-- The cursor behind a name. -/
def skipName (c : Cursor) : Cursor := (c.advanceBy 1).skipWhile isIdentContinue

theorem passes_skipName (hcur : c.current = .scalar ch) :
    c.Passes (ch :: c.upcoming.takeWhile isIdentContinue) (skipName c) := by
  have hfirst := Cursor.passes_advance hcur
  have htext := hfirst.text_eq_of_append (Cursor.text_of_scalar hcur)
  have hrest := Cursor.passes_skipWhile isIdentContinue hfirst.started
  rw [htext] at hrest
  exact hfirst.trans hrest

theorem numberLexeme_eq (value : LiteralValue) (h : c.Started) :
    numberLexeme value c =
      if c.text.head?.any isIdentStart then
        .ok {
          kind := .syntaxError
          problem? := some ⟨⟨c.index, (skipName c).index⟩, .identifierAfterNumber
            (Utf8.lossy ((Span.mk c.index (skipName c).index).slice (skipName c).bytes))⟩ }
          (skipName c)
      else .ok { kind := numberKind value, value? := some value } c := by
  rw [← h.toChar?_current]
  unfold numberLexeme
  show (if c.current.toChar?.any isIdentStart then _ else _ : Scanner _) c = _
  split <;> rfl

/-- A name is passed alike at both places. -/
theorem Beside.passes_skipName (h : Beside i j x y (ch :: u) c d) {more : List Char}
    (hu : ch :: u = ch :: c.upcoming.takeWhile isIdentContinue ++ more) :
    d.Passes (ch :: c.upcoming.takeWhile isIdentContinue) (skipName d) := by
  obtain ⟨hcur, hcur', -⟩ := h.advance
  have hpass := Scanner.passes_skipName hcur'
  have hc : c.upcoming = u ++ x := h.started.upcoming_eq h.text_eq
  have hd : d.upcoming = u ++ y := h.started'.upcoming_eq h.text_eq'
  have hrun : (u ++ x).takeWhile isIdentContinue = c.upcoming.takeWhile isIdentContinue := by
    rw [hc]
  obtain rfl : u = c.upcoming.takeWhile isIdentContinue ++ more := (List.cons.inj hu).2
  rwa [hd, takeWhile_append_eq hrun fun _ => h.detached.any_head? rfl rfl] at hpass

theorem agree_numberLexeme (value : LiteralValue) (h : Beside i j x y u c d) :
    Agree i j x y (SameLexeme i j) (numberLexeme value c) (numberLexeme value d) := by
  have hplain : SameLexeme i j { kind := numberKind value, value? := some value }
      { kind := numberKind value, value? := some value } := sameLexeme_of_plain i j rfl rfl
  rw [numberLexeme_eq value h.started, numberLexeme_eq value h.started']
  cases u with
  | nil =>
    have hy : d.text.head?.any isIdentStart = false :=
      h.text_eq' ▸ h.detached.any_head? rfl rfl
    rw [if_neg (ne_true_of_eq_false hy)]
    split
    · rename_i hname
      cases htext : c.text with
      | nil =>
        rw [htext] at hname
        cases hname
      | cons ch text =>
        have hx : x ≠ [] := by
          rintro rfl
          rw [h.text_eq] at htext
          cases htext
        refine .of_beyond h hx fun _ _ heq => ?_
        cases heq
        exact ⟨_, passes_skipName (h.started.current_of_text_cons htext), Nat.succ_pos _⟩
    · exact .of_ok h hplain
  | cons ch u =>
    obtain ⟨hcur, hcur', -⟩ := h.advance
    rw [h.text_eq, h.text_eq', List.cons_append, List.cons_append, List.head?_cons, List.head?_cons]
    split
    · have hpass := passes_skipName hcur
      refine .of_passes h hpass fun more hu _ => ?_
      have hpass' := h.passes_skipName hu
      refine ⟨_, _, rfl, ?_, hpass'⟩
      have hstop : (skipName c).index + j = (skipName d).index + i := by
        rw [hpass.index_eq, hpass'.index_eq, Nat.add_right_comm, h.index_eq, Nat.add_right_comm]
      rw [hpass.slice_eq, hpass'.slice_eq]
      simp only [SameLexeme, Lexeme.shift, Option.map_some, Problem.shift, Span.shift, h.index_eq,
        hstop, Pragmas.shift_none]
    · exact .of_ok h hplain

theorem passing_numberLexeme (value : LiteralValue) : Passing (numberLexeme value) := by
  intro c lexeme c' hstart h
  obtain ⟨⟨passed, hpass⟩, -⟩ := (recognizes_numberLexeme value (.refl hstart)).of_ok h
  exact ⟨passed, hpass⟩

theorem agree_decimalNumber (h : Beside i j x y u c d) :
    Agree i j x y (SameLexeme i j) (decimalNumber c) (decimalNumber d) := by
  have hlast : ∀ w f, Passing (exponent >>= fun e => numberLexeme (Numeral.decimal w f e).value) :=
    fun w f => passing_exponent.bind fun e => passing_numberLexeme _
  refine .bind h.started passing_whole (fun w => passing_fraction.bind (hlast w)) (agree_whole h) ?_
  rintro w _ u c d rfl h
  refine .bind h.started passing_fraction (hlast w) (agree_fraction h) ?_
  rintro f _ u c d rfl h
  refine .bind h.started passing_exponent (fun e => passing_numberLexeme _) (agree_exponent h) ?_
  rintro e _ u c d rfl h
  exact agree_numberLexeme _ h

theorem agree_basedNumber (base : Base) {zero letter : Char}
    (h : Beside i j x y (zero :: letter :: u) c d) :
    Agree i j x y (SameLexeme i j) (basedNumber base c) (basedNumber base d) := by
  have hmark := h.advanceBy [zero, letter]
  let rest (start : Nat) (ns : List Nat) : Scanner Lexeme :=
    if ns.isEmpty then fail (.atOffset (.missingDigits base.marker) start)
    else numberLexeme (Numeral.based base ns).value
  have hrest : ∀ start ns, Passing (rest start ns) := by
    intro start ns
    simp only [rest]
    split
    · exact passing_fail _
    · exact passing_numberLexeme _
  change Agree i j x y (SameLexeme i j)
    ((digits base.radix >>= rest (c.advanceBy 2).index) (c.advanceBy 2))
    ((digits base.radix >>= rest (d.advanceBy 2).index) (d.advanceBy 2))
  refine .bind hmark.started (passing_digits _) (hrest _) (agree_digits _ hmark) ?_
  rintro ns _ u c₁ d₁ rfl hdigits
  simp only [rest]
  split
  · refine .of_error ?_
    rw [LexError.shift_atOffset, LexError.shift_atOffset]
    exact congrArg _ hmark.index_eq
  · exact agree_numberLexeme _ hdigits

theorem agree_leadingZero (h : Beside i j x y u c d) :
    Agree i j x y (SameLexeme i j) (leadingZero c) (leadingZero d) := by
  intro hx hy
  have hcur : d.current = c.current := by
    rw [h.started.current_eq_head, h.started'.current_eq_head, h.text_eq_of_nil hx hy]
  have hsecond : c.nextOffset + j = d.nextOffset + i := by
    rw [Cursor.nextOffset, Cursor.nextOffset, hcur, Nat.add_right_comm, h.index_eq,
      Nat.add_right_comm]
  refine ⟨_, d, rfl, ?_⟩
  rw [LexError.shift_between, LexError.shift_between, hsecond, Nat.add_right_comm, hsecond,
    Nat.add_right_comm]

end Scanner

end Lexis
