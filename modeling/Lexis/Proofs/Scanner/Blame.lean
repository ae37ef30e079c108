import Lexis.Proofs.Number.Beginning
import Lexis.Proofs.Scanner.Faults
import Lexis.Proofs.Scanner.Numerals

/-!
# Number errors point at their cause

What an error of a number says of the place that it designates is a statement on the text of the
number, cut at the span (`LexErrorKind.Blames`). It is shown for a group of digits first, where the
place in the group is what has been passed of it (`GroupPlace.Reached`), and then for each part of a
number.
-/

namespace Lexis

open CharClass

/-- What a number error of the kind says of the text before its span, under it and behind it, all
from the beginning of the number on. -/
def LexErrorKind.Blames (kind : LexErrorKind) (before inside rest : List Char) : Prop :=
  match kind with
  | .consecutiveUnderscores =>
    inside = ['_'] ∧ ∃ front d, before = front ++ [d, '_'] ∧ (digitOf? (radixOf before) d).isSome
  | .leadingUnderscore =>
    inside = ['_'] ∧ ((∃ base, BaseMark base before) ∨
      ∃ number signed mark, before = number ++ mark ∧ ExponentMark signed mark)
  | .trailingUnderscore =>
    inside = ['_'] ∧ (∃ front d, before = front ++ [d] ∧ (digitOf? (radixOf before) d).isSome) ∧
      Scanner.EndsGroup (radixOf before) rest
  | .invalidDigit d radix =>
    inside = [d] ∧ (digitValue? d).isSome ∧ digitOf? radix d = none ∧
      ∃ base mark group more, before = mark ++ group ∧ BaseMark base mark ∧ base.radix = radix ∧
        DigitGroup radix (group ++ more)
  | .leadingZero => before = ['0'] ∧ ∃ d, inside = [d] ∧ (d.isDigit = true ∨ d = '_')
  | .missingDigits marker =>
    inside = [] ∧ (∃ base, BaseMark base before ∧ marker = base.marker) ∧
      ∀ ch ∈ rest.head?, ch ≠ '_' ∧ digitValue? ch = none
  | .missingExponentDigits =>
    inside = [] ∧ (∃ number mark, before = number ++ mark ∧ ExponentMark true mark) ∧
      ∀ ch ∈ rest.head?, ch ≠ '_' ∧ ch.isDigit = false
  | _ => False

/-- The error designates a place in the number that begins at `start` with the text, the place that
its kind calls for. What comes before it can be completed to a literal. -/
def LexError.PointsAt (e : LexError) (start : Nat) (text : List Char) : Prop :=
  ∃ before inside rest, text = before ++ inside ++ rest ∧
    e.span = .ofLength (start + Utf8.size before) inside.length ∧
    e.kind.Blames before inside rest ∧ BeginsNumeral before

/-- What a number error of the kind says of a group of digits, cut at its span. -/
def LexErrorKind.Breaks (radix : Nat) (kind : LexErrorKind) (before inside rest : List Char) :
    Prop :=
  match kind with
  | .consecutiveUnderscores =>
    inside = ['_'] ∧ ∃ group, before = group ++ ['_'] ∧ DigitGroup radix group
  | .leadingUnderscore => inside = ['_'] ∧ before = []
  | .trailingUnderscore => inside = ['_'] ∧ DigitGroup radix before ∧ Scanner.EndsGroup radix rest
  | .invalidDigit d radix' =>
    inside = [d] ∧ radix' = radix ∧ radix ≠ 10 ∧ (digitValue? d).isSome ∧
      digitOf? radix d = none ∧ ∃ more, DigitGroup radix (before ++ more)
  | _ => False

/-- The error designates a place in a group of digits. -/
def LexError.BreaksGroup (e : LexError) (radix start : Nat) (text : List Char) : Prop :=
  ∃ before inside rest, text = before ++ inside ++ rest ∧
    e.span = .ofLength (start + Utf8.size before) inside.length ∧
    e.kind.Breaks radix before inside rest

namespace Scanner

variable {α β : Type} {radix : Nat} {place : GroupPlace} {c₀ c c' c₁ c₂ : Cursor} {ch : Char}
  {group front number before inside rest text : List Char} {ds : List Nat} {e : LexError}

theorem bind_eq_error {s : Scanner α} {k : α → Scanner β} (h : (s >>= k) c = .error e c') :
    s c = .error e c' ∨ ∃ a c₁, s c = .ok a c₁ ∧ k a c₁ = .error e c' := by
  simp only [Bind.bind, EStateM.bind] at h
  cases hs : s c with
  | ok a c₁ =>
    rw [hs] at h
    exact .inr ⟨a, c₁, rfl, h⟩
  | error e₁ c₁ =>
    rw [hs] at h
    cases h
    exact .inl rfl

/-! ## Digits -/

/-- What has been passed of a group of digits at the place. -/
def GroupPlace.Reached (radix : Nat) : GroupPlace → List Char → Prop
  | .start, group => group = []
  | .afterDigit, group => DigitGroup radix group
  | .afterSeparator, group => ∃ init, group = init ++ ['_'] ∧ DigitGroup radix init

theorem GroupPlace.Reached.digit (h : place.Reached radix group)
    (hdigit : (digitOf? radix ch).isSome) : DigitGroup radix (group ++ [ch]) := by
  cases place with
  | start =>
    obtain rfl := h
    exact .single hdigit
  | afterDigit => exact DigitGroup.append h (.single hdigit)
  | afterSeparator =>
    obtain ⟨init, rfl, hgroup⟩ := h
    rw [List.append_assoc]
    exact hgroup.append_separator (.single hdigit)

theorem endsGroup_of_scalar (hcur : c.current = .scalar ch) (hne : ch ≠ '_')
    (hdigit : digitOf? radix ch = none) (hgood : ¬ (radix ≠ 10 ∧ (digitValue? ch).isSome)) :
    EndsGroup radix c.text := by
  rw [Cursor.text_of_scalar hcur]
  rintro _ ⟨⟩
  refine ⟨hne, hdigit, ?_⟩
  by_cases hten : radix = 10
  · exact .inl hten
  · exact .inr (by simpa [hten] using hgood)

theorem breaksGroup_of_passes (h : c₀.Passes before c) (htext : c.text = inside ++ rest)
    (hspan : e.span = .ofLength c.index inside.length)
    (hbreaks : e.kind.Breaks radix before inside rest) :
    e.BreaksGroup radix c₀.index c₀.text := by
  refine ⟨before, inside, rest, ?_, ?_, hbreaks⟩
  · rw [h.text_eq, htext, List.append_assoc]
  · rw [hspan, h.index_eq]

theorem digitsEnd_error (h : c₀.Passes group c) (hplace : place.Reached radix group)
    (hends : EndsGroup radix c.text) (herror : digitsEnd place c = .error e c') :
    e.BreaksGroup radix c₀.index c₀.text := by
  unfold digitsEnd at herror
  split at herror
  · rename_i hsep
    subst hsep
    cases herror
    obtain ⟨init, rfl, hgroup⟩ := hplace
    refine ⟨init, ['_'], c.text, h.text_eq, ?_, rfl, hgroup, hends⟩
    have hsize : Utf8.size (init ++ ['_']) = Utf8.size init + 1 := Utf8.size_append ..
    rw [LexError.atOffset, LexError.between, h.index_eq, hsize]
    rfl
  · cases herror

/-- What the digits of a group fail for is an error in what has been passed of the group and what
follows. -/
theorem digitsFrom_error (place : GroupPlace) (h : c₀.Passes group c)
    (hplace : place.Reached radix group) (hzero : (digitOf? radix '0').isSome)
    (herror : digitsFrom radix place c = .error e c') : e.BreaksGroup radix c₀.index c₀.text := by
  fun_induction digitsFrom radix place c generalizing group with
  | case1 c hcur =>
    cases herror
    exact breaksGroup_of_passes h (Cursor.text_of_scalar hcur) rfl ⟨rfl, hplace⟩
  | case2 c hcur =>
    cases herror
    exact breaksGroup_of_passes h (Cursor.text_of_scalar hcur) rfl ⟨rfl, hplace⟩
  | case3 c hcur hlt ih =>
    exact ih (h.trans (Cursor.passes_advance hcur)) ⟨group, rfl, hplace⟩ herror
  | case4 => cases herror
  | case5 place c ch hcur hlt hne d hd e₁ c₁ hrest ih =>
    cases herror
    have hdigit : (digitOf? radix ch).isSome := hd ▸ rfl
    exact ih (h.trans (Cursor.passes_advance hcur)) (hplace.digit hdigit) hrest
  | case6 place c ch hcur hlt hne hd hbad =>
    cases herror
    exact breaksGroup_of_passes h (Cursor.text_of_scalar hcur) rfl
      ⟨rfl, rfl, hbad.1, hbad.2, hd, ['0'], hplace.digit hzero⟩
  | case7 place c ch hcur hlt hne hd hgood =>
    exact digitsEnd_error h hplace (endsGroup_of_scalar hcur hne hd hgood) herror
  | case8 place c hnot =>
    refine digitsEnd_error h hplace ?_ herror
    rw [h.started.text_of_not_scalar hnot]
    exact endsGroup_nil radix

/-- A group goes on as far as it can. -/
theorem endsGroup_of_digitsFrom (h : c.Started) (hdigits : digitsFrom radix place c = .ok ds c') :
    EndsGroup radix c'.text := by
  fun_induction digitsFrom radix place c generalizing ds with
  | case1 => cases hdigits
  | case2 => cases hdigits
  | case3 c hcur hlt ih => exact ih (.advance c) hdigits
  | case4 place c ch hcur hlt hne d hd ds₁ c₁ hrest ih =>
    cases hdigits
    exact ih (.advance c) hrest
  | case5 => cases hdigits
  | case6 => cases hdigits
  | case7 place c ch hcur hlt hne hd hgood =>
    obtain ⟨-, rfl, -⟩ := digitsEnd_eq_ok hdigits
    exact endsGroup_of_scalar hcur hne hd hgood
  | case8 place c hnot =>
    obtain ⟨-, rfl, -⟩ := digitsEnd_eq_ok hdigits
    rw [h.text_of_not_scalar hnot]
    exact endsGroup_nil radix

/-! ## Groups in a number -/

theorem blames_consecutive (hgroup : DigitGroup radix group)
    (htakes : ∀ first ∈ group.head?, Takes front radix first) (rest : List Char) :
    LexErrorKind.consecutiveUnderscores.Blames (front ++ (group ++ ['_'])) ['_'] rest ∧
      BeginsNumeral (front ++ (group ++ ['_'])) := by
  -- A separator in place of the second one is followed by digits.
  have hjoined := hgroup.append_separator hgroup
  obtain ⟨init, last, hlast, hdigit⟩ := hgroup.exists_concat
  obtain ⟨first, tail, rfl, -⟩ := hgroup.exists_cons
  have hfront := htakes first rfl
  have hall : first :: tail ++ '_' :: first :: tail =
      first :: (tail ++ ['_']) ++ first :: tail := by simp
  have hbase := hfront.radixOf_eq _ _ (hall ▸ hjoined)
  obtain ⟨n, hwritten⟩ := hfront.written _ hjoined
  refine ⟨⟨rfl, front ++ init, last, ?_, ?_⟩, n, first :: tail, ?_⟩
  · rw [hlast]
    simp
  · exact hbase ▸ hdigit
  · rw [List.append_assoc]
    exact hall ▸ hwritten

theorem blames_trailing (hgroup : DigitGroup radix group)
    (htakes : ∀ first ∈ group.head?, Takes front radix first) (hends : EndsGroup radix rest) :
    LexErrorKind.trailingUnderscore.Blames (front ++ group) ['_'] rest ∧
      BeginsNumeral (front ++ group) := by
  obtain ⟨init, last, hlast, hdigit⟩ := hgroup.exists_concat
  obtain ⟨first, tail, rfl, -⟩ := hgroup.exists_cons
  have hfront := htakes first rfl
  have hbase := hfront.radixOf_eq tail [] (by rwa [List.append_nil])
  obtain ⟨n, hwritten⟩ := hfront.written tail hgroup
  refine ⟨⟨rfl, ⟨front ++ init, last, ?_, hbase ▸ hdigit⟩, hbase ▸ hends⟩, n, [], ?_⟩
  · rw [hlast, List.append_assoc]
  · rwa [List.append_nil]

/-- An error in a group is one in the number that the group belongs to. -/
theorem pointsAt_of_breaksGroup (hfront : c₀.Passes front c)
    (h : e.BreaksGroup radix c.index c.text)
    (hblames : ∀ before inside rest, c.text = before ++ inside ++ rest →
      e.kind.Breaks radix before inside rest →
      e.kind.Blames (front ++ before) inside rest ∧ BeginsNumeral (front ++ before)) :
    e.PointsAt c₀.index c₀.text := by
  obtain ⟨before, inside, rest, htext, hspan, hbreaks⟩ := h
  refine ⟨front ++ before, inside, rest, ?_, ?_, hblames before inside rest htext hbreaks⟩
  · rw [hfront.text_eq, htext]
    simp
  · rw [hspan, hfront.index_eq, Utf8.size_append, Nat.add_assoc]

theorem digits_error_of_decimal (hfront : c₀.Passes front c) (htext : c.text = ch :: text)
    (hdigit : ch.isDigit = true) (htakes : Takes front 10 ch)
    (herror : digits 10 c = .error e c') : e.PointsAt c₀.index c₀.text := by
  have hgroup := digitsFrom_error .start (.refl hfront.started) rfl rfl herror
  refine pointsAt_of_breaksGroup hfront hgroup fun before inside rest hall hbreaks => ?_
  have hhead : ∀ {group more}, DigitGroup 10 group → ch :: text = group ++ more →
      ∀ first ∈ group.head?, Takes front 10 first := by
    intro group more hgroup heq first hfirst
    obtain ⟨d, tail, rfl, -⟩ := hgroup.exists_cons
    obtain rfl : d = first := Option.some.inj hfirst
    exact (List.cons.inj heq).1 ▸ htakes
  rw [htext] at hall
  cases hkind : e.kind <;> rw [hkind] at hbreaks
  case consecutiveUnderscores =>
    obtain ⟨rfl, group, rfl, hgroup⟩ := hbreaks
    rw [List.append_assoc, List.append_assoc] at hall
    exact blames_consecutive hgroup (hhead hgroup hall) rest
  case trailingUnderscore =>
    obtain ⟨rfl, hgroup, hends⟩ := hbreaks
    rw [List.append_assoc] at hall
    exact blames_trailing hgroup (hhead hgroup hall) hends
  case leadingUnderscore =>
    obtain ⟨rfl, rfl⟩ := hbreaks
    obtain rfl := (List.cons.inj hall).1
    cases hdigit
  case invalidDigit =>
    obtain ⟨-, -, hten, -⟩ := hbreaks
    exact absurd rfl hten
  all_goals exact hbreaks.elim

theorem digits_error_of_based {base : Base} (hfront : c₀.Passes front c)
    (hmark : BaseMark base front) (herror : digits base.radix c = .error e c') :
    e.PointsAt c₀.index c₀.text := by
  have hzero : (digitOf? base.radix '0').isSome := by cases base <;> rfl
  have hgroup := digitsFrom_error .start (.refl hfront.started) rfl hzero herror
  refine pointsAt_of_breaksGroup hfront hgroup fun before inside rest hall hbreaks => ?_
  cases hkind : e.kind <;> rw [hkind] at hbreaks
  case consecutiveUnderscores =>
    obtain ⟨rfl, group, rfl, hgroup⟩ := hbreaks
    exact blames_consecutive hgroup (fun first _ => hmark.takes first) rest
  case trailingUnderscore =>
    obtain ⟨rfl, hgroup, hends⟩ := hbreaks
    exact blames_trailing hgroup (fun first _ => hmark.takes first) hends
  case leadingUnderscore =>
    obtain ⟨rfl, rfl⟩ := hbreaks
    refine ⟨⟨rfl, .inl ⟨base, ?_⟩⟩, hmark.beginsNumeral [] ['0'] (.single hzero)⟩
    rwa [List.append_nil]
  case invalidDigit =>
    obtain ⟨rfl, rfl, -, hvalue, hbad, more, hgroup⟩ := hbreaks
    exact ⟨⟨rfl, hvalue, hbad, base, front, before, more, rfl, hmark, rfl, hgroup⟩,
      hmark.beginsNumeral before more hgroup⟩
  all_goals exact hbreaks.elim

/-! ## The parts of a number -/

theorem whole_error (h : c.Started) (hbegins : BeginsDecimal c.text)
    (herror : whole c = .error e c') : e.PointsAt c.index c.text := by
  rw [whole_eq h] at herror
  split at herror
  · rename_i hdigit
    cases htext : c.text with
    | nil =>
      rw [htext] at hdigit
      cases hdigit
    | cons first rest =>
      rw [htext] at hdigit hbegins
      rw [← htext]
      refine digits_error_of_decimal (.refl h) htext hdigit (takes_whole ?_) herror
      -- A zero is all of the digits.
      rintro rfl
      have hends : EndsGroup 10 rest := by
        intro next hnext
        obtain ⟨more, rfl⟩ := List.head?_eq_some_iff.1 hnext
        obtain ⟨hne, hnot⟩ := hbegins.zero next more rfl
        refine ⟨hne, ?_, .inl rfl⟩
        by_contra hsome
        rw [isDigit_of_digitOf? (Option.isSome_iff_ne_none.2 hsome)] at hnot
        cases hnot
      obtain ⟨c₁, hok, -⟩ := digitsFrom_complete (.single rfl) hends .start h htext
      cases hok.symm.trans herror
  · cases herror

theorem fraction_error (hwhole : text = [] ∨ IsWhole text) (hpass : c₀.Passes text c)
    (herror : fraction c = .error e c') : e.PointsAt c₀.index c₀.text := by
  have hahead := Cursor.passes_peek hpass.started 1
  rw [fraction_eq hpass.started] at herror
  split at herror
  · rename_i hstarts
    obtain ⟨hdot, hdigit⟩ := Bool.and_eq_true_iff.1 hstarts
    rw [beq_iff_eq, ← List.head?_eq_getElem?] at hdot
    obtain ⟨rest, htext⟩ := List.head?_eq_some_iff.1 hdot
    rw [htext, List.getElem?_cons_succ, ← List.head?_eq_getElem?] at hdigit
    rw [← hahead.text_eq_of_nil] at htext
    have hmark := Cursor.passes_advance (hahead.started.current_of_text_cons htext)
    have hfront := hpass.trans (hahead.trans hmark)
    cases rest with
    | nil => cases hdigit
    | cons first rest =>
      obtain hskip | ⟨_, _, ⟨⟩, hbehind⟩ := bind_eq_error herror
      · cases hskip
      obtain hdigits | ⟨ds, d, -, hlast⟩ := bind_eq_error hbehind
      · exact digits_error_of_decimal hfront (hmark.text_eq_of_append htext) hdigit
          (takes_fraction hwhole first) hdigits
      · cases hlast
  · cases herror

/-- The mark of an exponent is as long as the look ahead takes it to be. -/
theorem exists_exponentMark (h : text[0]? = some 'e' ∨ text[0]? = some 'E') :
    ∃ signed mark rest, text = mark ++ rest ∧ ExponentMark signed mark ∧
      mark.length = 1 + signWidth text ∧ text[1 + signWidth text]? = rest.head? ∧
      (signWidth text = 1 → signed = true) := by
  obtain ⟨letter, tail, rfl, hletter⟩ :
      ∃ letter tail, text = letter :: tail ∧ (letter = 'e' ∨ letter = 'E') := by
    rw [← List.head?_eq_getElem?] at h
    obtain hletter | hletter := h <;> obtain ⟨tail, rfl⟩ := List.head?_eq_some_iff.1 hletter
    · exact ⟨_, tail, rfl, .inl rfl⟩
    · exact ⟨_, tail, rfl, .inr rfl⟩
  by_cases hsign : ∃ sign rest, tail = sign :: rest ∧ (sign = '+' ∨ sign = '-')
  · obtain ⟨sign, rest, rfl, hsign⟩ := hsign
    have hwidth : signWidth (letter :: sign :: rest) = 1 := by
      obtain rfl | rfl := hsign <;> rfl
    rw [hwidth]
    exact ⟨true, [letter, sign], rest, rfl, .signed hletter hsign, rfl,
      List.head?_eq_getElem?.symm, fun _ => rfl⟩
  · have hwidth : signWidth (letter :: tail) = 0 := by
      cases tail with
      | nil => rfl
      | cons sign rest =>
        have hnone : ¬ (sign = '+' ∨ sign = '-') := fun hmark => hsign ⟨sign, rest, rfl, hmark⟩
        rw [not_or] at hnone
        simp [signWidth, hnone.1, hnone.2]
    rw [hwidth]
    exact ⟨false, [letter], tail, rfl, .plain hletter, rfl, List.head?_eq_getElem?.symm, by simp⟩

/-- What an exponent is broken off for is missing behind its mark. -/
theorem exponentAhead_broken {kind : LexErrorKind} {width : Nat}
    (h : exponentAhead text = .broken kind width) :
    ∃ signed mark rest, text = mark ++ rest ∧ ExponentMark signed mark ∧ mark.length = width ∧
      (kind = .leadingUnderscore ∧ rest.head? = some '_' ∨
        kind = .missingExponentDigits ∧ signed = true ∧
          ∀ ch ∈ rest.head?, ch ≠ '_' ∧ ch.isDigit = false) := by
  unfold exponentAhead at h
  split at h
  · rename_i hletter
    obtain ⟨signed, mark, rest, htext, hmark, hlength, hnext, hsigned⟩ :=
      exists_exponentMark (by simpa using hletter)
    rw [hnext] at h
    split at h
    · cases h
    · rename_i hdigit
      split at h
      · rename_i hsep
        cases h
        exact ⟨signed, mark, rest, htext, hmark, hlength, .inl ⟨rfl, eq_of_beq hsep⟩⟩
      · rename_i hsep
        split at h
        · rename_i hone
          cases h
          refine ⟨signed, mark, rest, htext, hmark, hlength, .inr ⟨rfl, hsigned hone, ?_⟩⟩
          intro ch hch
          rw [hch] at hdigit hsep
          exact ⟨fun heq => hsep (heq ▸ beq_self_eq_true _), eq_false_of_ne_true hdigit⟩
        · cases h
  · cases h

/-- Where an exponent has digits, they follow its mark. -/
theorem exponentAhead_digits {negative : Bool} {width : Nat}
    (h : exponentAhead text = .digits negative width) :
    ∃ signed mark first rest, text = mark ++ first :: rest ∧ ExponentMark signed mark ∧
      mark.length = width ∧ first.isDigit = true := by
  unfold exponentAhead at h
  split at h
  · rename_i hletter
    obtain ⟨signed, mark, rest, htext, hmark, hlength, hnext, -⟩ :=
      exists_exponentMark (by simpa using hletter)
    rw [hnext] at h
    split at h
    · rename_i hdigit
      cases h
      cases rest with
      | nil => cases hdigit
      | cons first rest => exact ⟨signed, mark, first, rest, htext, hmark, hlength, hdigit⟩
    · split at h
      · cases h
      · split at h <;> cases h
  · cases h

theorem size_exponentMark {signed : Bool} {mark : List Char} (h : ExponentMark signed mark) :
    Utf8.size mark = mark.length := by
  cases h with
  | plain hletter => obtain rfl | rfl := hletter <;> rfl
  | signed hletter hsign => obtain rfl | rfl := hletter <;> obtain rfl | rfl := hsign <;> rfl

theorem exponent_error (hnumber : TakesExponent number) (hpass : c₀.Passes number c)
    (herror : exponent c = .error e c') : e.PointsAt c₀.index c₀.text := by
  obtain ⟨c₁, hahead, hcases⟩ := exponent_eq hpass.started
  rw [herror] at hcases
  cases hlook : exponentAhead c.text with
  | absent =>
    rw [hlook] at hcases
    cases hcases
  | broken kind width =>
    rw [hlook] at hcases
    cases hcases
    obtain ⟨signed, mark, rest, htext, hmark, hlength, hmissing⟩ := exponentAhead_broken hlook
    have hall : c₀.text = number ++ mark ++ rest := by
      rw [hpass.text_eq, htext, List.append_assoc]
    have hspan : c.index + width = c₀.index + Utf8.size (number ++ mark) := by
      rw [← hlength, ← size_exponentMark hmark, Utf8.size_append, hpass.index_eq, Nat.add_assoc]
    obtain ⟨rfl, hsep⟩ | ⟨rfl, rfl, hends⟩ := hmissing
    · obtain ⟨rest, rfl⟩ := List.head?_eq_some_iff.1 hsep
      refine ⟨number ++ mark, ['_'], rest, ?_, ?_, ?_, hnumber.beginsNumeral hmark⟩
      · rw [hall, List.append_assoc (number ++ mark)]
        rfl
      · rw [hspan]
        rfl
      · exact ⟨rfl, .inr ⟨number, signed, mark, rfl, hmark⟩⟩
    · refine ⟨number ++ mark, [], rest, ?_, ?_, ?_, hnumber.beginsNumeral hmark⟩
      · rw [hall, List.append_nil]
      · rw [hspan]
        rfl
      · exact ⟨rfl, ⟨number, mark, rfl, hmark⟩, hends⟩
  | digits negative width =>
    rw [hlook] at hcases
    obtain ⟨signed, mark, first, rest, htext, hmark, hlength, hdigit⟩ := exponentAhead_digits hlook
    have hbehind := Cursor.passes_advanceBy hahead.started width
    rw [hahead.text_eq_of_nil, htext, List.take_left' hlength] at hbehind
    have hfront := hpass.trans (hahead.trans hbehind)
    rw [← hahead.text_eq_of_nil] at htext
    obtain hskip | ⟨_, _, ⟨⟩, hdigits⟩ := bind_eq_error hcases.symm
    · cases hskip
    obtain hdigits | ⟨ds, d, -, hlast⟩ := bind_eq_error hdigits
    · exact digits_error_of_decimal hfront (hbehind.text_eq_of_append htext) hdigit
        (hnumber.takes hmark first) hdigits
    · cases hlast

/-! ## Numbers -/

theorem numberLexeme_ne_error (value : LiteralValue) (c : Cursor) :
    numberLexeme value c ≠ .error e c' := by
  have hspares : Spares (fun _ => True) (numberLexeme value) := spares_numberLexeme value
  exact fun herror => hspares c e c' herror trivial

theorem decimalNumber_error (h : c.Started) (hbegins : BeginsDecimal c.text)
    (herror : decimalNumber c = .error e c') : e.PointsAt c.index c.text := by
  obtain hwhole | ⟨ds, c₁, hwhole, hbehind⟩ := bind_eq_error herror
  · exact whole_error h hbegins hwhole
  obtain ⟨first, hfirst, -, hgroup⟩ := whole_sound h hwhole
  have hdigits : first = [] ∨ IsWhole first := by
    split at hgroup
    · exact .inr ((hfirst.text_eq ▸ hbegins).isWhole hgroup)
    · exact .inl hgroup
  obtain hfraction | ⟨fraction?, c₂, hfraction, hlast⟩ := bind_eq_error hbehind
  · exact fraction_error hdigits hfirst hfraction
  obtain ⟨second, hsecond, hwritten, hstarts⟩ := fraction_sound hfirst.started hfraction
  have hnumber : TakesExponent (first ++ second) := by
    cases hwritten with
    | present hdigits' => exact takesExponent_fraction hdigits hdigits'
    | absent =>
      rw [List.append_nil]
      obtain rfl | hwhole := hdigits
      · -- Without digits in front there is a fraction.
        rw [hfirst.text_eq_of_nil] at hstarts
        obtain hdigit | hdot := hbegins.begins
        · rw [if_pos hdigit] at hgroup
          cases hgroup
        · cases hstarts hdot
      · exact hwhole.takesExponent
  obtain hexponent | ⟨exponent?, d, -, hlexeme⟩ := bind_eq_error hlast
  · exact exponent_error hnumber (hfirst.trans hsecond) hexponent
  · exact absurd hlexeme (numberLexeme_ne_error _ d)

theorem basedNumber_error {base : Base} {letter : Char} (h : c.Started)
    (htext : c.text = '0' :: letter :: rest) (hletter : Base.ofLetter? letter = some base)
    (herror : basedNumber base c = .error e c') : e.PointsAt c.index c.text := by
  have hmark : BaseMark base ['0', letter] := .mark hletter
  have hfront : c.Passes ['0', letter] (c.advanceBy 2) :=
    Cursor.passes_advanceBy_length h ⟨rest, htext.symm⟩
  obtain hskip | ⟨_, _, ⟨⟩, hbehind⟩ := bind_eq_error herror
  · cases hskip
  obtain hindex | ⟨start, _, ⟨⟩, hbehind⟩ := bind_eq_error hbehind
  · cases hindex
  obtain hdigits | ⟨ds, d, hdigits, hlast⟩ := bind_eq_error hbehind
  · exact digits_error_of_based hfront hmark hdigits
  split at hlast
  · rename_i hnone
    cases hlast
    have hends := endsGroup_of_digitsFrom hfront.started hdigits
    obtain ⟨text, hpass, hds, rfl | hgroup⟩ := digitsFrom_sound .start hfront.started hdigits
    · rw [hpass.text_eq_of_nil] at hends
      refine ⟨['0', letter], [], (c.advanceBy 2).text, ?_, ?_, ?_, ?_⟩
      · rw [hfront.text_eq, List.append_nil]
      · rw [← hfront.index_eq]
        rfl
      · refine ⟨rfl, ⟨base, hmark, rfl⟩, fun ch hch => ?_⟩
        obtain ⟨hne, -, hten | hvalue⟩ := hends ch hch
        · cases base <;> cases hten
        · exact ⟨hne, hvalue⟩
      · have hzero : (digitOf? base.radix '0').isSome := by cases base <;> rfl
        exact hmark.beginsNumeral [] ['0'] (.single hzero)
    · exact absurd (List.isEmpty_iff.1 hnone) (hds ▸ hgroup.digitsIn_ne_nil)
  · exact absurd hlast (numberLexeme_ne_error _ d)

theorem leadingZero_error {second : Char} (h : c.Started) (htext : c.text = '0' :: second :: rest)
    (hsecond : second.isDigit = true ∨ second = '_') (herror : leadingZero c = .error e c') :
    e.PointsAt c.index c.text := by
  have hnext : c.nextOffset = c.index + 1 := by
    rw [Cursor.nextOffset, h.current_of_text_cons htext]
    rfl
  cases herror
  refine ⟨['0'], [second], rest, htext, ?_, ⟨rfl, second, rfl, hsecond⟩, ?_⟩
  · rw [hnext]
    rfl
  · obtain ⟨n, hwritten, -⟩ := IsWhole.takesExponent (.inl rfl) none [] .absent
    exact ⟨n, [], hwritten⟩

end Scanner

/-! ## Every number error -/

theorem exists_cons_of_head?_take {text : List Char} {next : Char}
    (h : (text.take 3).head? = some next) : ∃ rest, text = next :: rest := by
  rw [List.head?_take, if_neg (by decide)] at h
  exact List.head?_eq_some_iff.1 h

theorem Opening.second_of_leadingZero {ch : Char} {ahead : List Char}
    (h : Opening.of ch ahead = .leadingZero) :
    ch = '0' ∧ ∃ second, ahead.head? = some second ∧
      (second.isDigit = true ∨ second = '_') := by
  cases h ▸ found_of ch ahead with
  | leadingZero hsecond => exact ⟨rfl, _, rfl, hsecond⟩

/-- A scan that fails with an error of a number points at its cause. -/
theorem Lexer.pointsAt_of_scanAt {c c' : Cursor} {ch : Char} {e : LexError}
    (hcur : c.current = .scalar ch) (hscan : scanAt c ch = .error e c')
    (hkind : e.kind.IsNumberError) : e.PointsAt c.index c.text := by
  have hahead := Cursor.passes_lookahead (.of_scalar hcur) 3
  have htext := Cursor.text_of_scalar hcur
  rw [← hahead.text_eq_of_nil] at htext
  rw [← hahead.text_eq_of_nil, ← hahead.index_eq_of_nil]
  rw [scanAt, c.lookahead_fst] at hscan
  by_cases hnumber : Opening.of ch (c.upcoming.take 3) = .number
  · rw [hnumber] at hscan
    have hbegins := Opening.beginsDecimal_of hnumber
    rw [← htext] at hbegins
    exact Scanner.decimalNumber_error hahead.started hbegins hscan
  by_cases hbased : ∃ base, Opening.of ch (c.upcoming.take 3) = .basedNumber base
  · obtain ⟨base, hbased⟩ := hbased
    have hsees := Opening.sees_of ch (c.upcoming.take 3)
    rw [hbased] at hsees hscan
    obtain ⟨rfl, letter, hhead, hletter⟩ := hsees
    obtain ⟨rest, hrest⟩ := exists_cons_of_head?_take hhead
    rw [hrest] at htext
    exact Scanner.basedNumber_error hahead.started htext hletter hscan
  by_cases hzero : Opening.of ch (c.upcoming.take 3) = .leadingZero
  · obtain ⟨rfl, second, hhead, hsecond⟩ := Opening.second_of_leadingZero hzero
    obtain ⟨rest, hrest⟩ := exists_cons_of_head?_take hhead
    rw [hzero] at hscan
    rw [hrest] at htext
    exact Scanner.leadingZero_error hahead.started htext hsecond hscan
  · have hspares := Opening.spares_numberErrors hnumber (fun base h => hbased ⟨base, h⟩) hzero
    exact absurd hkind (hspares _ e c' hscan)

end Lexis
