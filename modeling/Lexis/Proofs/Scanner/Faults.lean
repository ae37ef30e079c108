import Lexis.Proofs.Scanner.Kinds

/-!
# Errors that a scanner does not come to

Errors of numbers come from scanners of numbers alone. A number that has been scanned has a value,
so that no scanner fails for want of one.
-/

namespace Lexis

/-- The error breaks a number off. -/
def LexErrorKind.IsNumberError (kind : LexErrorKind) : Prop :=
  kind.code = .misplacedSeparator ∨ kind.code = .malformedNumber

namespace Scanner

variable {α β : Type} {s : Scanner α} {p q : LexErrorKind → Prop}

/-- The scanner does not fail with an error of such a kind. -/
def Spares (p : LexErrorKind → Prop) (s : Scanner α) : Prop :=
  ∀ c e c', s c = .error e c' → ¬ p e.kind

theorem Spares.mono (h : Spares q s) (hpq : ∀ kind, p kind → q kind) : Spares p s :=
  fun c e c' herror hkind => h c e c' herror (hpq _ hkind)

theorem Spares.bind {k : α → Scanner β} (hs : Spares p s) (hk : ∀ a, Spares p (k a)) :
    Spares p (s >>= k) := by
  intro c e c' h
  simp only [Bind.bind, EStateM.bind] at h
  cases hsc : s c with
  | ok a c₁ =>
    rw [hsc] at h
    exact hk a c₁ e c' h
  | error e₁ c₁ =>
    rw [hsc] at h
    cases h
    exact hs c _ _ hsc

theorem spares_of_ok (h : ∀ c, ∃ a c', s c = .ok a c') : Spares p s := by
  intro c e c' herror
  obtain ⟨a, d, hok⟩ := h c
  rw [hok] at herror
  cases herror

theorem spares_fail {kind : LexErrorKind} {start stop : Nat} (h : ¬ p kind) :
    Spares p (fail (.between kind start stop) : Scanner α) := by
  rintro c _ _ ⟨⟩
  exact h

theorem spares_pure (a : α) : Spares p (pure a : Scanner α) := spares_of_ok fun c => ⟨a, c, rfl⟩

theorem spares_get : Spares p (get : Scanner Cursor) := spares_of_ok fun c => ⟨c, c, rfl⟩

theorem spares_current : Spares p current := spares_of_ok fun c => ⟨_, c, rfl⟩

theorem spares_index : Spares p index := spares_of_ok fun c => ⟨_, c, rfl⟩

theorem spares_move (f : Cursor → Cursor) : Spares p (move f) :=
  spares_of_ok fun c => ⟨(), f c, rfl⟩

theorem spares_skip (n : Nat) : Spares p (skip n) := spares_move _

theorem spares_peek (n : Nat) : Spares p (peek n) := spares_of_ok fun _ => ⟨_, _, rfl⟩

theorem spares_bytesFrom (start : Nat) : Spares p (bytesFrom start) :=
  spares_of_ok fun c => ⟨_, c, rfl⟩

/-! ## Numbers -/

theorem spares_digitsEnd (place : GroupPlace) :
    Spares (· = .malformedNumber) (digitsEnd place) := by
  intro c e c' h
  unfold digitsEnd at h
  split at h
  · cases h
    rintro ⟨⟩
  · cases h

theorem spares_digits (radix : Nat) : Spares (· = .malformedNumber) (digits radix) := by
  intro c e c' h
  unfold digits at h
  generalize GroupPlace.start = place at h
  fun_induction digitsFrom radix place c with
  | case1 => cases h; rintro ⟨⟩
  | case2 => cases h; rintro ⟨⟩
  | case3 c hcur hlt ih => exact ih h
  | case4 => cases h
  | case5 place c ch hcur hlt hne d hd e₁ c₁ hrest ih =>
    cases h
    exact ih hrest
  | case6 => cases h; rintro ⟨⟩
  | case7 => exact spares_digitsEnd _ _ _ _ h
  | case8 => exact spares_digitsEnd _ _ _ _ h

theorem spares_whole : Spares (· = .malformedNumber) whole := by
  unfold whole
  refine spares_current.bind fun first => ?_
  split
  · exact spares_digits 10
  · exact spares_pure _

theorem spares_fraction : Spares (· = .malformedNumber) fraction := by
  unfold fraction
  refine spares_current.bind fun dot => (spares_peek 1).bind fun first => ?_
  split
  · exact (spares_skip 1).bind fun _ => (spares_digits 10).bind fun _ => spares_pure _
  · exact spares_pure _

theorem spares_exponent : Spares (· = .malformedNumber) exponent := by
  unfold exponent
  refine spares_current.bind fun letter => ?_
  split
  · refine (spares_peek 1).bind fun after => (spares_peek _).bind fun first => ?_
    refine spares_index.bind fun offset => ?_
    split
    · exact (spares_skip _).bind fun _ => (spares_digits 10).bind fun _ => spares_pure _
    · split
      · exact spares_fail (by rintro ⟨⟩)
      · split
        · exact spares_fail (by rintro ⟨⟩)
        · exact spares_pure _
  · exact spares_pure _

theorem spares_numberLexeme (value : LiteralValue) : Spares p (numberLexeme value) := by
  unfold numberLexeme
  refine spares_current.bind fun next => ?_
  split
  · exact spares_of_ok fun _ => ⟨_, _, rfl⟩
  · exact spares_pure _

theorem spares_decimalNumber : Spares (· = .malformedNumber) decimalNumber :=
  spares_whole.bind fun _ => spares_fraction.bind fun _ => spares_exponent.bind fun _ =>
    spares_numberLexeme _

theorem spares_basedNumber (base : Base) : Spares (· = .malformedNumber) (basedNumber base) := by
  unfold basedNumber
  refine (spares_skip 2).bind fun _ => spares_index.bind fun start => ?_
  refine (spares_digits _).bind fun ds => ?_
  split
  · exact spares_fail (by rintro ⟨⟩)
  · exact spares_numberLexeme _

theorem spares_leadingZero : Spares (· = .malformedNumber) leadingZero :=
  spares_get.bind fun _ => spares_fail (by rintro ⟨⟩)

/-! ## Other tokens -/

open LexErrorKind (IsNumberError)

/-- A number without a value is a number error. -/
theorem Spares.malformed (h : Spares IsNumberError s) : Spares (· = .malformedNumber) s :=
  h.mono fun _ hkind => .inr (hkind ▸ rfl)

theorem not_isNumberError_unterminated (style : QuoteStyle) :
    ¬ style.unterminated.IsNumberError := by
  cases style <;> simp [QuoteStyle.unterminated, IsNumberError, LexErrorKind.code]

theorem spares_quotedBody (style : QuoteStyle) (start : Nat) :
    Spares IsNumberError (quotedBody style start) := by
  have hbroken : ∀ {c e c'}, brokenOff style start c = .error e c' →
      ¬ e.kind.IsNumberError := by
    rintro c _ _ ⟨⟩
    exact not_isNumberError_unterminated style
  have hrest : ∀ hasEscape nonAscii,
      Spares IsNumberError (quotedRest style style.closers start hasEscape nonAscii) := by
    intro hasEscape nonAscii c e c' h
    fun_induction quotedRest style style.closers start hasEscape nonAscii c with
    | case1 => exact hbroken h
    | case2 => cases h
    | case3 => rename_i ih; exact ih h
    | case4 => rename_i ih; exact ih h
    | case5 => exact hbroken h
  exact spares_index.bind fun _ => (hrest _ _).bind fun _ => spares_get.bind fun _ =>
    spares_pure _

theorem spares_quoted (style : QuoteStyle) (width : Nat) (kinds : Ending → TokenKind)
    (flags : TokenFlags) : Spares IsNumberError (quoted style width kinds flags) :=
  spares_index.bind fun _ => (spares_skip width).bind fun _ =>
    (spares_quotedBody style _).bind fun _ => spares_pure _

theorem spares_rawString : Spares IsNumberError rawString := by
  unfold rawString
  refine spares_index.bind fun start => (spares_skip 1).bind fun _ => ?_
  refine (spares_of_ok fun _ => ⟨_, _, rfl⟩).bind fun hashes => spares_current.bind fun next => ?_
  split
  · exact (spares_skip 1).bind fun _ => (spares_quotedBody _ _).bind fun _ => spares_pure _
  · exact spares_index.bind fun _ => spares_fail (by simp [IsNumberError, LexErrorKind.code])

theorem spares_templateContinuation (start : Nat) (flags : TokenFlags) :
    Spares IsNumberError (templateContinuation start flags) :=
  (spares_quotedBody _ _).bind fun _ => spares_pure _

theorem spares_blockComment (legal : Bool) : Spares IsNumberError (blockComment legal) := by
  have hrest : Spares IsNumberError (blockCommentRest 0 false) := by
    intro c e c' h
    generalize 0 = depth at h
    generalize false = crossed at h
    fun_induction blockCommentRest depth crossed c with
    | case1 => rename_i ih; exact ih h
    | case2 => cases h
    | case3 => rename_i ih; exact ih h
    | case4 => rename_i ih; exact ih h
    | case5 =>
      cases h
      simp [LexError.atOffset, LexError.between, IsNumberError, LexErrorKind.code]
  exact spares_index.bind fun _ => (spares_skip 2).bind fun _ => hrest.bind fun _ =>
    spares_get.bind fun _ => spares_index.bind fun _ => spares_pure _

theorem spares_identifierRest : Spares p identifierRest := by
  unfold identifierRest
  refine (spares_move _).bind fun _ => spares_current.bind fun next => ?_
  split
  · exact spares_move _
  · exact spares_pure _

theorem spares_keywordFrom? (start : Nat) : Spares p (keywordFrom? start) :=
  (spares_bytesFrom start).bind fun _ => spares_pure _

theorem spares_name : Spares p name := by
  unfold name
  refine spares_index.bind fun start => (spares_skip 1).bind fun _ => ?_
  refine spares_identifierRest.bind fun _ => (spares_keywordFrom? start).bind fun k? => ?_
  split <;> exact spares_pure _

theorem spares_escapedName : Spares p escapedName := by
  unfold escapedName
  refine (spares_skip 2).bind fun _ => spares_index.bind fun start => ?_
  refine (spares_skip 1).bind fun _ => spares_identifierRest.bind fun _ => ?_
  refine (spares_keywordFrom? start).bind fun k? => ?_
  split <;> exact spares_pure _

end Scanner

namespace Opening

open LexErrorKind (IsNumberError)

/-- Number errors come from numbers. -/
theorem spares_numberErrors {opening : Opening} (hnumber : opening ≠ .number)
    (hbased : ∀ base, opening ≠ .basedNumber base) (hzero : opening ≠ .leadingZero) :
    Scanner.Spares IsNumberError opening.scanner := by
  cases opening with
  | lineComment doc => exact Scanner.spares_of_ok fun _ => ⟨_, _, rfl⟩
  | blockComment legal => exact Scanner.spares_blockComment legal
  | string | tripleString | character | template =>
    rw [scanner_of_style? rfl]
    exact Scanner.spares_quoted _ _ _ _
  | rawString => exact Scanner.spares_rawString
  | escapedName => exact Scanner.spares_escapedName
  | number => exact absurd rfl hnumber
  | basedNumber base => exact absurd rfl (hbased base)
  | leadingZero => exact absurd rfl hzero
  | operator op => exact Scanner.spares_of_ok fun _ => ⟨_, _, rfl⟩
  | name => exact Scanner.spares_name
  | unexpected d => exact Scanner.spares_of_ok fun _ => ⟨_, _, rfl⟩

theorem spares_scanner (opening : Opening) :
    Scanner.Spares (· = .malformedNumber) opening.scanner := by
  cases opening with
  | number => exact Scanner.spares_decimalNumber
  | basedNumber base => exact Scanner.spares_basedNumber base
  | leadingZero => exact Scanner.spares_leadingZero
  | _ => exact (spares_numberErrors (by simp) (by simp) (by simp)).malformed

end Opening

end Lexis
