import Lexis.Number.Decimal

/-!
# Written numerals

The grammar of number literals: `n.WrittenAs text` says that a text is a number literal and that the
numeral `n` holds its digits. Separators stand in a text but not in a numeral, so that leaving them
out changes nothing (`Numeral.WrittenAs.withoutSeparators`).
-/

namespace Lexis

open CharClass

/-- The digits of the base that a text holds, whatever else is in it. -/
def digitsIn (radix : Nat) (text : List Char) : List Nat := text.filterMap (digitOf? radix)

/-- Digits of one base, with single separators strictly between them. -/
inductive DigitGroup (radix : Nat) : List Char → Prop
  | single {ch : Char} (hdigit : (digitOf? radix ch).isSome) : DigitGroup radix [ch]
  | digit {ch : Char} {text : List Char} (hdigit : (digitOf? radix ch).isSome)
      (hrest : DigitGroup radix text) : DigitGroup radix (ch :: text)
  | separator {ch : Char} {text : List Char} (hdigit : (digitOf? radix ch).isSome)
      (hrest : DigitGroup radix text) : DigitGroup radix (ch :: '_' :: text)

/-- The digits before the dot: a lone zero, or a group that does not begin with one. -/
def IsWhole (text : List Char) : Prop :=
  text = ['0'] ∨ DigitGroup 10 text ∧ text.head? ≠ some '0'

/-- One decimal digit or more, and nothing else. -/
def IsDigits (text : List Char) : Prop := text ≠ [] ∧ ∀ ch ∈ text, ch.isDigit = true

/-- A fraction or nothing, and its digits. They are written in groups of the given form. -/
inductive FractionText (group : List Char → Prop) : Option (List Nat) → List Char → Prop
  | absent : FractionText group none []
  | present {text : List Char} (hdigits : group text) :
      FractionText group (some (digitsIn 10 text)) ('.' :: text)

/-- An exponent or nothing, and its sign and digits. They are written in groups of the given
form. -/
inductive ExponentText (group : List Char → Prop) : Option Exponent → List Char → Prop
  | absent : ExponentText group none []
  | plain {letter : Char} {text : List Char} (hletter : letter = 'e' ∨ letter = 'E')
      (hdigits : group text) : ExponentText group (some ⟨false, digitsIn 10 text⟩) (letter :: text)
  | signed {letter sign : Char} {text : List Char} (hletter : letter = 'e' ∨ letter = 'E')
      (hsign : sign = '+' ∨ sign = '-') (hdigits : group text) :
      ExponentText group (some ⟨sign == '-', digitsIn 10 text⟩) (letter :: sign :: text)

namespace Numeral

/-- The text is a number literal with the digits of the numeral. -/
inductive WrittenAs : Numeral → List Char → Prop
  | based {base : Base} {letter : Char} {text : List Char}
      (hletter : Base.ofLetter? letter = some base) (hdigits : DigitGroup base.radix text) :
      WrittenAs (.based base (digitsIn base.radix text)) ('0' :: letter :: text)
  | decimal {whole fraction exponent : List Char} {fraction? : Option (List Nat)}
      {exponent? : Option Exponent} (hwhole : IsWhole whole)
      (hfraction : FractionText (DigitGroup 10) fraction? fraction)
      (hexponent : ExponentText (DigitGroup 10) exponent? exponent) :
      WrittenAs (.decimal (digitsIn 10 whole) fraction? exponent?) (whole ++ (fraction ++ exponent))
  | fraction {fraction exponent : List Char} {exponent? : Option Exponent}
      (hfraction : DigitGroup 10 fraction)
      (hexponent : ExponentText (DigitGroup 10) exponent? exponent) :
      WrittenAs (.decimal [] (some (digitsIn 10 fraction)) exponent?)
        ('.' :: (fraction ++ exponent))

/-- The text is an unsigned decimal with the digits of the numeral. Zeros may lead. -/
inductive DecimalText : Numeral → List Char → Prop
  | decimal {whole fraction exponent : List Char} {fraction? : Option (List Nat)}
      {exponent? : Option Exponent} (hwhole : IsDigits whole)
      (hfraction : FractionText IsDigits fraction? fraction)
      (hexponent : ExponentText IsDigits exponent? exponent) :
      DecimalText (.decimal (digitsIn 10 whole) fraction? exponent?)
        (whole ++ (fraction ++ exponent))
  | fraction {fraction exponent : List Char} {exponent? : Option Exponent}
      (hfraction : IsDigits fraction) (hexponent : ExponentText IsDigits exponent? exponent) :
      DecimalText (.decimal [] (some (digitsIn 10 fraction)) exponent?)
        ('.' :: (fraction ++ exponent))

end Numeral

/-- An unsigned decimal: `digits[.digits][e[sign]digits]` or `.digits[e[sign]digits]`. -/
def IsDecimal (text : List Char) : Prop := ∃ n : Numeral, n.DecimalText text

/-! ## Digits -/

variable {radix d : Nat} {ch : Char} {text : List Char}

theorem digitOf?_separator (radix : Nat) : digitOf? radix '_' = none := by
  rw [digitOf?, show digitValue? '_' = none by decide]
  rfl

theorem ne_separator_of_digit (h : (digitOf? radix ch).isSome) : ch ≠ '_' := by
  rintro rfl
  rw [digitOf?_separator] at h
  cases h

theorem digitOf?_lt (h : digitOf? radix ch = some d) : d < radix :=
  of_decide_eq_true (Option.filter_eq_some_iff.1 h).2

theorem isDigit_of_digitOf? (h : (digitOf? 10 ch).isSome) : ch.isDigit = true := by
  obtain ⟨d, hd⟩ := Option.isSome_iff_exists.1 h
  obtain ⟨hvalue, hlt⟩ := Option.filter_eq_some_iff.1 hd
  have hlt : d < 10 := of_decide_eq_true hlt
  unfold digitValue? at hvalue
  split at hvalue
  · assumption
  · -- The letters stand for values from ten on.
    split at hvalue
    · cases hvalue
      exact absurd hlt (Nat.not_lt.2 (Nat.le_add_left 10 _))
    · split at hvalue
      · cases hvalue
        exact absurd hlt (Nat.not_lt.2 (Nat.le_add_left 10 _))
      · cases hvalue

theorem digitsIn_cons (h : digitOf? radix ch = some d) (text : List Char) :
    digitsIn radix (ch :: text) = d :: digitsIn radix text :=
  List.filterMap_cons_some h

theorem digitsIn_separator (radix : Nat) (text : List Char) :
    digitsIn radix ('_' :: text) = digitsIn radix text :=
  List.filterMap_cons_none (digitOf?_separator radix)

theorem forall_digitsIn_lt (radix : Nat) (text : List Char) :
    ∀ d ∈ digitsIn radix text, d < radix := by
  intro d hd
  obtain ⟨ch, -, hch⟩ := List.mem_filterMap.1 hd
  exact digitOf?_lt hch

theorem digitsIn_withoutSeparators (radix : Nat) (text : List Char) :
    digitsIn radix (withoutSeparators text) = digitsIn radix text := by
  rw [digitsIn, withoutSeparators, List.filterMap_filter, digitsIn]
  congr 1
  funext ch
  split
  · rfl
  · rename_i hsep
    obtain rfl : ch = '_' := by simpa using hsep
    exact (digitOf?_separator radix).symm

namespace DigitGroup

/-- A group begins with a digit. -/
theorem exists_cons (h : DigitGroup radix text) :
    ∃ ch rest, text = ch :: rest ∧ (digitOf? radix ch).isSome := by
  cases h with
  | single hdigit => exact ⟨_, _, rfl, hdigit⟩
  | digit hdigit => exact ⟨_, _, rfl, hdigit⟩
  | separator hdigit => exact ⟨_, _, rfl, hdigit⟩

theorem digitsIn_ne_nil (h : DigitGroup radix text) : digitsIn radix text ≠ [] := by
  obtain ⟨ch, rest, rfl, hdigit⟩ := h.exists_cons
  obtain ⟨d, hd⟩ := Option.isSome_iff_exists.1 hdigit
  rw [digitsIn_cons hd]
  exact List.cons_ne_nil _ _

/-- What follows the first digit of a group is a digit or a separator. -/
theorem tail_head (h : DigitGroup radix (ch :: text)) :
    ∀ next ∈ text.head?, next = '_' ∨ (digitOf? radix next).isSome := by
  intro next hnext
  cases h with
  | single => cases hnext
  | digit _ hrest =>
    obtain ⟨first, rest, rfl, hfirst⟩ := hrest.exists_cons
    cases hnext
    exact .inr hfirst
  | separator =>
    cases hnext
    exact .inl rfl

end DigitGroup

theorem IsWhole.group (h : IsWhole text) : DigitGroup 10 text := by
  obtain rfl | ⟨hgroup, -⟩ := h
  · exact .single rfl
  · exact hgroup

/-! ## Parts -/

section Parts

variable {group : List Char → Prop} {rest : List Char} {fraction? : Option (List Nat)}
  {exponent? : Option Exponent} {p : Char → Prop}

/-- An exponent begins with its letter. -/
theorem ExponentText.forall_head (h : ExponentText group exponent? text) (hsmall : p 'e')
    (hlarge : p 'E') : ∀ ch ∈ text.head?, p ch := by
  have hletter : ∀ {letter : Char}, letter = 'e' ∨ letter = 'E' → p letter := by
    rintro _ (rfl | rfl) <;> assumption
  rintro ch hch
  cases h with
  | absent => cases hch
  | plain hmark => cases hch; exact hletter hmark
  | signed hmark => cases hch; exact hletter hmark

/-- What is behind the digits of a whole number begins with a dot or the letter of an exponent. -/
theorem FractionText.forall_head (hfraction : FractionText group fraction? text)
    (hexponent : ExponentText group exponent? rest) (hdot : p '.') (hsmall : p 'e')
    (hlarge : p 'E') : ∀ ch ∈ (text ++ rest).head?, p ch := by
  cases hfraction with
  | absent => exact hexponent.forall_head hsmall hlarge
  | present =>
    rintro ch ⟨⟩
    exact hdot

end Parts

/-! ## Separators -/

theorem withoutSeparators_cons (h : ch ≠ '_') (text : List Char) :
    withoutSeparators (ch :: text) = ch :: withoutSeparators text :=
  List.filter_cons_of_pos (decide_eq_true h)

theorem withoutSeparators_append (text more : List Char) :
    withoutSeparators (text ++ more) = withoutSeparators text ++ withoutSeparators more :=
  List.filter_append ..

theorem DigitGroup.withoutSeparators (h : DigitGroup radix text) :
    DigitGroup radix (withoutSeparators text) := by
  induction h with
  | single hdigit =>
    rw [withoutSeparators_cons (ne_separator_of_digit hdigit)]
    exact .single hdigit
  | digit hdigit _ ih =>
    rw [withoutSeparators_cons (ne_separator_of_digit hdigit)]
    exact .digit hdigit ih
  | @separator ch text hdigit _ ih =>
    have hrest : Lexis.withoutSeparators ('_' :: text) = Lexis.withoutSeparators text :=
      List.filter_cons_of_neg (by simp)
    rw [withoutSeparators_cons (ne_separator_of_digit hdigit), hrest]
    exact .digit hdigit ih

theorem IsWhole.withoutSeparators (h : IsWhole text) : IsWhole (withoutSeparators text) := by
  obtain rfl | ⟨hdigits, hzero⟩ := h
  · exact .inl rfl
  · obtain ⟨ch, rest, rfl, hdigit⟩ := hdigits.exists_cons
    refine .inr ⟨hdigits.withoutSeparators, ?_⟩
    rwa [withoutSeparators_cons (ne_separator_of_digit hdigit)]

/-- A group of decimal digits is nothing but digits then. -/
theorem DigitGroup.isDigits (h : DigitGroup 10 text) : IsDigits (Lexis.withoutSeparators text) := by
  have hall : ∀ {text}, DigitGroup 10 text → ∀ ch ∈ text, ch ≠ '_' → ch.isDigit = true := by
    intro text h
    induction h with
    | single hdigit => simpa using fun _ => isDigit_of_digitOf? hdigit
    | digit hdigit _ ih =>
      rw [List.forall_mem_cons]
      exact ⟨fun _ => isDigit_of_digitOf? hdigit, ih⟩
    | separator hdigit _ ih =>
      rw [List.forall_mem_cons, List.forall_mem_cons]
      exact ⟨fun _ => isDigit_of_digitOf? hdigit, fun hne => absurd rfl hne, ih⟩
  constructor
  · obtain ⟨ch, rest, rfl, hdigit⟩ := h.exists_cons
    rw [withoutSeparators_cons (ne_separator_of_digit hdigit)]
    exact List.cons_ne_nil _ _
  · intro ch hch
    obtain ⟨hmem, hne⟩ := List.mem_filter.1 hch
    exact hall h ch hmem (of_decide_eq_true hne)

section Parts

variable {group group' : List Char → Prop}

theorem FractionText.withoutSeparators {fraction? : Option (List Nat)}
    (h : FractionText group fraction? text)
    (hgroup : ∀ text, group text → group' (withoutSeparators text)) :
    FractionText group' fraction? (withoutSeparators text) := by
  cases h with
  | absent => exact .absent
  | present hdigits =>
    rw [← digitsIn_withoutSeparators]
    exact .present (hgroup _ hdigits)

theorem ExponentText.withoutSeparators {exponent? : Option Exponent}
    (h : ExponentText group exponent? text)
    (hgroup : ∀ text, group text → group' (withoutSeparators text)) :
    ExponentText group' exponent? (withoutSeparators text) := by
  have hletter : ∀ {letter : Char}, letter = 'e' ∨ letter = 'E' → letter ≠ '_' := by
    rintro _ (rfl | rfl) <;> decide
  have hmark : ∀ {sign : Char}, sign = '+' ∨ sign = '-' → sign ≠ '_' := by
    rintro _ (rfl | rfl) <;> decide
  cases h with
  | absent => exact .absent
  | plain hexponent hdigits =>
    rw [withoutSeparators_cons (hletter hexponent), ← digitsIn_withoutSeparators]
    exact .plain hexponent (hgroup _ hdigits)
  | signed hexponent hsign hdigits =>
    rw [withoutSeparators_cons (hletter hexponent), withoutSeparators_cons (hmark hsign),
      ← digitsIn_withoutSeparators]
    exact .signed hexponent hsign (hgroup _ hdigits)

end Parts

namespace Numeral

variable {n : Numeral}

/-- Without its separators, a literal has the same digits. -/
theorem WrittenAs.withoutSeparators (h : n.WrittenAs text) :
    n.WrittenAs (withoutSeparators text) := by
  have hgroup : ∀ text, DigitGroup 10 text → DigitGroup 10 (Lexis.withoutSeparators text) :=
    fun _ => DigitGroup.withoutSeparators
  cases h with
  | @based base letter text hletter hdigits =>
    have hne : letter ≠ '_' := by
      rintro rfl
      cases hletter
    rw [withoutSeparators_cons (by decide), withoutSeparators_cons hne,
      ← digitsIn_withoutSeparators]
    exact .based hletter hdigits.withoutSeparators
  | decimal hwhole hfraction hexponent =>
    rw [withoutSeparators_append, withoutSeparators_append, ← digitsIn_withoutSeparators]
    exact .decimal hwhole.withoutSeparators (hfraction.withoutSeparators hgroup)
      (hexponent.withoutSeparators hgroup)
  | fraction hfraction hexponent =>
    rw [withoutSeparators_cons (by decide), withoutSeparators_append, ← digitsIn_withoutSeparators]
    exact .fraction hfraction.withoutSeparators (hexponent.withoutSeparators hgroup)

/-- Without its separators, a literal without a marker is an unsigned decimal. -/
theorem WrittenAs.decimalText {whole : List Nat} {fraction? : Option (List Nat)}
    {exponent? : Option Exponent} (h : (Numeral.decimal whole fraction? exponent?).WrittenAs text) :
    (Numeral.decimal whole fraction? exponent?).DecimalText (Lexis.withoutSeparators text) := by
  have hgroup : ∀ text, DigitGroup 10 text → IsDigits (Lexis.withoutSeparators text) :=
    fun _ => DigitGroup.isDigits
  cases h with
  | decimal hwhole hfraction hexponent =>
    rw [withoutSeparators_append, withoutSeparators_append, ← digitsIn_withoutSeparators]
    exact .decimal hwhole.group.isDigits (hfraction.withoutSeparators hgroup)
      (hexponent.withoutSeparators hgroup)
  | fraction hfraction hexponent =>
    rw [withoutSeparators_cons (by decide), withoutSeparators_append, ← digitsIn_withoutSeparators]
    exact .fraction hfraction.isDigits (hexponent.withoutSeparators hgroup)

end Numeral

end Lexis
