import Lexis.Proofs.Number.Value

/-!
# How numerals begin

A text that some literal of the grammar begins with (`BeginsNumeral`) can be completed. What can
come before a group of digits is said by what the group makes of it (`Takes`), and likewise for
exponents (`TakesExponent`).
-/

namespace Lexis

open CharClass

variable {radix : Nat} {group text more front : List Char} {first ch : Char}

/-- A literal of the grammar begins with the text. -/
def BeginsNumeral (text : List Char) : Prop :=
  ∃ (n : Numeral) (more : List Char), n.WrittenAs (text ++ more)

/-- The base of the digits of a number that begins with the text. -/
def radixOf (text : List Char) : Nat := (markedBase? text).elim 10 Base.radix

/-- A zero and the letter of a base. -/
inductive BaseMark (base : Base) : List Char → Prop
  | mark {letter : Char} (hletter : Base.ofLetter? letter = some base) : BaseMark base ['0', letter]

/-- The letter of an exponent, and its sign. -/
inductive ExponentMark : (signed : Bool) → List Char → Prop
  | plain {letter : Char} (hletter : letter = 'e' ∨ letter = 'E') : ExponentMark false [letter]
  | signed {letter sign : Char} (hletter : letter = 'e' ∨ letter = 'E')
      (hsign : sign = '+' ∨ sign = '-') : ExponentMark true [letter, sign]

/-! ## Groups -/

namespace DigitGroup

/-- Digits go on with digits. -/
theorem append (h : DigitGroup radix text) (hmore : DigitGroup radix more) :
    DigitGroup radix (text ++ more) := by
  induction h with
  | single hdigit => exact .digit hdigit hmore
  | digit hdigit _ ih => exact .digit hdigit ih
  | separator hdigit _ ih => exact .separator hdigit ih

/-- A separator joins two groups. -/
theorem append_separator (h : DigitGroup radix text) (hmore : DigitGroup radix more) :
    DigitGroup radix (text ++ '_' :: more) := by
  induction h with
  | single hdigit => exact .separator hdigit hmore
  | digit hdigit _ ih => exact .digit hdigit ih
  | separator hdigit _ ih => exact .separator hdigit ih

/-- A group ends with a digit. -/
theorem exists_concat (h : DigitGroup radix text) :
    ∃ init last, text = init ++ [last] ∧ (digitOf? radix last).isSome := by
  induction h with
  | single hdigit => exact ⟨[], _, rfl, hdigit⟩
  | @digit ch _ _ _ ih =>
    obtain ⟨init, last, rfl, hlast⟩ := ih
    exact ⟨ch :: init, last, rfl, hlast⟩
  | @separator ch _ _ _ ih =>
    obtain ⟨init, last, rfl, hlast⟩ := ih
    exact ⟨ch :: '_' :: init, last, rfl, hlast⟩

end DigitGroup

/-! ## Marks -/

theorem radixOf_append_baseMark {base : Base} (h : BaseMark base front) (text : List Char) :
    radixOf (front ++ text) = base.radix := by
  obtain ⟨hletter⟩ := h
  exact congrArg (Option.elim · 10 Base.radix) hletter

theorem markedBase?_of_append (h : markedBase? (text ++ more) = none) :
    markedBase? text = none := by
  by_cases hzero : text.head? = some '0'
  · obtain ⟨rest, rfl⟩ := List.head?_eq_some_iff.1 hzero
    cases rest with
    | nil => rfl
    | cons letter rest => exact h
  · exact Numeral.markedBase?_of_head hzero

/-- What a literal without a marker begins with has no marker. -/
theorem Numeral.WrittenAs.radixOf_eq {n : Numeral} (h : n.WrittenAs (text ++ more))
    (hbase : n.base? = none) : radixOf text = 10 := by
  rw [radixOf, markedBase?_of_append (h.markedBase?_eq.trans hbase)]
  rfl

theorem ExponentMark.exists_exponentText {signed : Bool} {mark : List Char}
    (h : ExponentMark signed mark) (hgroup : DigitGroup 10 group) :
    ∃ exponent?, ExponentText (DigitGroup 10) exponent? (mark ++ group) := by
  cases h with
  | plain hletter => exact ⟨_, .plain hletter hgroup⟩
  | signed hletter hsign => exact ⟨_, .signed hletter hsign hgroup⟩

/-! ## What takes digits and exponents -/

/-- A group of digits behind the text, the first of them given, makes a literal of it. -/
structure Takes (front : List Char) (radix : Nat) (first : Char) : Prop where
  written : ∀ group, DigitGroup radix (first :: group) →
    ∃ n : Numeral, n.WrittenAs (front ++ first :: group)
  radixOf_eq : ∀ group more, DigitGroup radix (first :: group ++ more) →
    radixOf (front ++ first :: group) = radix

/-- An exponent behind the text makes a literal of it. -/
def TakesExponent (number : List Char) : Prop :=
  ∀ exponent? text, ExponentText (DigitGroup 10) exponent? text →
    ∃ n : Numeral, n.WrittenAs (number ++ text) ∧ n.base? = none

theorem Takes.of_decimal (h : ∀ group, DigitGroup 10 (first :: group) →
    ∃ n : Numeral, n.WrittenAs (front ++ first :: group) ∧ n.base? = none) :
    Takes front 10 first where
  written group hgroup := by
    obtain ⟨n, hwritten, -⟩ := h group hgroup
    exact ⟨n, hwritten⟩
  radixOf_eq group more hgroup := by
    obtain ⟨n, hwritten, hbase⟩ := h (group ++ more) hgroup
    rw [← List.cons_append, ← List.append_assoc] at hwritten
    exact hwritten.radixOf_eq hbase

theorem BaseMark.takes {base : Base} (h : BaseMark base front) (first : Char) :
    Takes front base.radix first where
  written group hgroup := by
    obtain ⟨hletter⟩ := h
    exact ⟨_, .based hletter hgroup⟩
  radixOf_eq group _ _ := radixOf_append_baseMark h _

theorem IsWhole.takesExponent (h : IsWhole text) : TakesExponent text :=
  fun _ _ hexponent => ⟨_, .decimal h .absent hexponent, rfl⟩

/-- Digits that do not begin with a zero make a whole number. -/
theorem takes_whole (hfirst : first ≠ '0') : Takes [] 10 first := by
  refine .of_decimal fun group hgroup => ?_
  have hwhole : IsWhole (first :: group) := by
    refine .inr ⟨hgroup, ?_⟩
    rintro ⟨⟩
    exact hfirst rfl
  have hwritten := hwhole.takesExponent none [] .absent
  rwa [List.append_nil] at hwritten

/-- A fraction, with digits before the dot or without, takes an exponent. -/
theorem takesExponent_fraction (hwhole : text = [] ∨ IsWhole text) (hgroup : DigitGroup 10 group) :
    TakesExponent (text ++ '.' :: group) := by
  intro exponent? exponent hexponent
  obtain rfl | hwhole := hwhole
  · exact ⟨_, .fraction hgroup hexponent, rfl⟩
  · rw [List.append_assoc]
    exact ⟨_, .decimal hwhole (.present hgroup) hexponent, rfl⟩

theorem takes_fraction (hwhole : text = [] ∨ IsWhole text) (first : Char) :
    Takes (text ++ ['.']) 10 first := by
  refine .of_decimal fun group hgroup => ?_
  have hwritten := takesExponent_fraction hwhole hgroup none [] .absent
  rw [List.append_nil] at hwritten
  rwa [← List.append_cons]

theorem TakesExponent.takes {number mark : List Char} {signed : Bool} (h : TakesExponent number)
    (hmark : ExponentMark signed mark) (first : Char) : Takes (number ++ mark) 10 first := by
  refine .of_decimal fun group hgroup => ?_
  obtain ⟨exponent?, hexponent⟩ := hmark.exists_exponentText hgroup
  rw [List.append_assoc]
  exact h exponent? _ hexponent

theorem TakesExponent.beginsNumeral {number mark : List Char} {signed : Bool}
    (h : TakesExponent number) (hmark : ExponentMark signed mark) :
    BeginsNumeral (number ++ mark) := by
  obtain ⟨n, hwritten⟩ := (h.takes hmark '0').written [] (.single rfl)
  exact ⟨n, _, hwritten⟩

theorem BaseMark.beginsNumeral {base : Base} (h : BaseMark base front) (text more : List Char)
    (hgroup : DigitGroup base.radix (text ++ more)) : BeginsNumeral (front ++ text) := by
  obtain ⟨first, rest, heq, -⟩ := hgroup.exists_cons
  obtain ⟨n, hwritten⟩ := (h.takes first).written rest (heq ▸ hgroup)
  refine ⟨n, more, ?_⟩
  rwa [List.append_assoc, heq]

end Lexis
