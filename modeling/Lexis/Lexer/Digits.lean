import Lexis.Lexer.Scanner
import Lexis.Number.Numeral

/-!
# Scanning numbers

Separators stand between digits, one at a time. A dot belongs to a number only before a digit, so
that `1..2` is a range, and a name that follows a number without a gap spoils it.
-/

namespace Lexis.Scanner

open CharClass

/-- What stands before the current place in a group of digits. -/
inductive GroupPlace where
  | start
  | afterDigit
  | afterSeparator
  deriving DecidableEq

/-- A group of digits that ends before the current code point. -/
def digitsEnd (place : GroupPlace) (c : Cursor) : EStateM.Result LexError Cursor (List Nat) :=
  if place = .afterSeparator then .error (.atOffset .trailingUnderscore (c.index - 1)) c
  else .ok [] c

/-- The values of the digits from here on. -/
def digitsFrom (radix : Nat) (place : GroupPlace) (c : Cursor) :
    EStateM.Result LexError Cursor (List Nat) :=
  match h : c.current with
  | .scalar ch =>
    have := Cursor.remaining_advance_lt h
    if ch = '_' then
      match place with
      | .afterSeparator => .error (.atOffset .consecutiveUnderscores c.index) c
      | .start => .error (.atOffset .leadingUnderscore c.index) c
      | .afterDigit => digitsFrom radix .afterSeparator c.advance
    else
      match digitOf? radix ch with
      | some d =>
        match digitsFrom radix .afterDigit c.advance with
        | .ok ds c => .ok (d :: ds) c
        | .error e c => .error e c
      | none =>
        if radix ≠ 10 ∧ (digitValue? ch).isSome then
          .error (.between (.invalidDigit ch radix) c.index (c.index + 1)) c
        else digitsEnd place c
  | _ => digitsEnd place c
termination_by c.remaining

theorem digitsFrom_def (radix : Nat) (place : GroupPlace) (c : Cursor) :
    digitsFrom radix place c =
      match c.current with
      | .scalar ch =>
        if ch = '_' then
          match place with
          | .afterSeparator => .error (.atOffset .consecutiveUnderscores c.index) c
          | .start => .error (.atOffset .leadingUnderscore c.index) c
          | .afterDigit => digitsFrom radix .afterSeparator c.advance
        else
          match digitOf? radix ch with
          | some d =>
            match digitsFrom radix .afterDigit c.advance with
            | .ok ds c => .ok (d :: ds) c
            | .error e c => .error e c
          | none =>
            if radix ≠ 10 ∧ (digitValue? ch).isSome then
              .error (.between (.invalidDigit ch radix) c.index (c.index + 1)) c
            else digitsEnd place c
      | _ => digitsEnd place c := by
  rw [digitsFrom.eq_def]
  split
  · rename_i ch hcur
    simp only [hcur]
  · rename_i hnot
    split
    · rename_i ch hcur
      exact absurd hcur (hnot ch)
    · rfl

/-- A group of digits. In a base other than ten, every hexadecimal digit has to be one of the
base. -/
def digits (radix : Nat) : Scanner (List Nat) := digitsFrom radix .start

/-- The exponent that begins here, if one does: a letter and digits, perhaps with a sign between
them. A sign without digits is an error, a letter without them is no exponent. -/
def exponent : Scanner (Option Exponent) := do
  let letter ← current
  if letter.is 'e' || letter.is 'E' then
    let after ← peek 1
    let sign := (after.is '+' || after.is '-').toNat
    let first ← peek (1 + sign)
    let firstOffset := (← index) + 1 + sign
    if first.toChar?.any Char.isDigit then
      skip (1 + sign)
      let digits ← digits 10
      return some ⟨after.is '-', digits⟩
    else if first.is '_' then fail (.atOffset .leadingUnderscore firstOffset)
    else if sign = 1 then fail (.atOffset .missingExponentDigits firstOffset)
    else return none
  else return none

/-- The fraction that begins here, if one does: a dot and digits. -/
def fraction : Scanner (Option (List Nat)) := do
  let dot ← current
  let first ← peek 1
  if dot.is '.' && first.toChar?.any Char.isDigit then
    skip 1
    let digits ← digits 10
    return some digits
  else return none

/-- The digits before the dot, if there are any. -/
def whole : Scanner (List Nat) := do
  let first ← current
  if first.toChar?.any Char.isDigit then digits 10 else return []

def numberKind : LiteralValue → TokenKind
  | .int _ => .intLiteral
  | _ => .floatLiteral

/-- A token for a number, spoilt if a name follows without a gap. -/
def numberLexeme (value : LiteralValue) : Scanner Lexeme := do
  let next ← current
  if next.toChar?.any isIdentStart then
    let nameStart ← index
    skip 1
    move (·.skipWhile isIdentContinue)
    let name ← bytesFrom nameStart
    let nameStop ← index
    let problem := ⟨⟨nameStart, nameStop⟩, .identifierAfterNumber (Utf8.lossy name)⟩
    return { kind := .syntaxError, problem? := some problem }
  else return { kind := numberKind value, value? := some value }

/-- A number without a marker. -/
def decimalNumber : Scanner Lexeme := do
  let whole ← whole
  let fraction? ← fraction
  let exponent? ← exponent
  numberLexeme (Numeral.decimal whole fraction? exponent?).value

/-- A zero, a letter for the base, and digits of that base. -/
def basedNumber (base : Base) : Scanner Lexeme := do
  skip 2
  let digitsStart ← index
  let digits ← digits base.radix
  if digits.isEmpty then fail (.atOffset (.missingDigits base.marker) digitsStart)
  else numberLexeme (Numeral.based base digits).value

/-- A zero that is followed by a digit or a separator. -/
def leadingZero : Scanner Lexeme := do
  let second := (← get).nextOffset
  fail (.between .leadingZero second (second + 1))

/-! ## Numbers are stepped over -/

theorem cursorAfter_digitsEnd (place : GroupPlace) (c : Cursor) :
    cursorAfter (digitsEnd place c) = c := by
  unfold digitsEnd
  split <;> rfl

theorem cursorAfter_digitsFrom_le (radix : Nat) (place : GroupPlace) (c : Cursor) :
    (cursorAfter (digitsFrom radix place c)).remaining ≤ c.remaining := by
  fun_induction digitsFrom radix place c with
  | case1 => exact Nat.le_refl _
  | case2 => exact Nat.le_refl _
  | case3 c h hlt ih => omega
  | case4 place c ch h hlt hne d hd ds c' hrest ih =>
    rw [hrest] at ih
    exact Nat.le_trans ih (Nat.le_of_lt hlt)
  | case5 place c ch h hlt hne d hd e c' hrest ih =>
    rw [hrest] at ih
    exact Nat.le_trans ih (Nat.le_of_lt hlt)
  | case6 => exact Nat.le_refl _
  | case7 => exact Nat.le_of_eq (by rw [cursorAfter_digitsEnd])
  | case8 => exact Nat.le_of_eq (by rw [cursorAfter_digitsEnd])

theorem forward_digits (radix : Nat) : Forward (digits radix) :=
  cursorAfter_digitsFrom_le radix .start

theorem consumes_digits {radix : Nat} {c : Cursor} {ch : Char} (h : c.current = .scalar ch)
    (hdigit : (digitOf? radix ch).isSome) : Consumes (digits radix) c := by
  intro ds c' heq
  have hlt := Cursor.remaining_advance_lt h
  have hle := cursorAfter_digitsFrom_le radix .afterDigit c.advance
  have hne : ch ≠ '_' := by
    rintro rfl
    have : digitOf? radix '_' = none := by simp [digitOf?, digitValue?]
    simp [this] at hdigit
  obtain ⟨d, hd⟩ := Option.isSome_iff_exists.1 hdigit
  unfold digits digitsFrom at heq
  split at heq
  · rename_i ch' h'
    obtain rfl : ch = ch' := by simpa [h] using h'
    simp only [hne, if_false, hd] at heq
    split at heq
    · rename_i hrest
      rw [hrest] at hle
      cases heq
      exact Nat.lt_of_le_of_lt hle hlt
    · cases heq
  · rename_i hnot
    exact absurd h (hnot ch)

theorem forward_exponent : Forward exponent := by
  unfold exponent
  apply forward_current.bind
  intro letter
  split
  · apply (forward_peek 1).bind
    intro _
    apply (forward_peek _).bind
    intro _
    apply forward_index.bind
    intro offset
    split
    · exact (forward_skip _).bind fun _ => (forward_digits 10).bind fun ds => forward_pure _
    · split
      · exact forward_fail _
      · split
        · exact forward_fail _
        · exact forward_pure _
  · exact forward_pure _

theorem forward_fraction : Forward fraction := by
  unfold fraction
  apply forward_current.bind
  intro _
  apply (forward_peek 1).bind
  intro _
  split
  · exact (forward_skip 1).bind fun _ => (forward_digits 10).bind fun _ => forward_pure _
  · exact forward_pure _

theorem forward_numberLexeme (value : LiteralValue) : Forward (numberLexeme value) := by
  unfold numberLexeme
  apply forward_current.bind
  intro _
  split
  · apply forward_index.bind
    intro _
    apply (forward_skip 1).bind
    intro _
    apply (forward_move (Cursor.remaining_skipWhile_le _)).bind
    intro _
    exact (forward_bytesFrom _).bind fun _ => forward_index.bind fun _ => forward_pure _
  · exact forward_pure _

theorem isSome_digitOf?_ten {ch : Char} (h : ch.isDigit = true) : (digitOf? 10 ch).isSome := by
  have hlt : ch.toNat - 48 < 10 := by
    have h' := h
    simp only [Char.isDigit, Bool.and_eq_true, decide_eq_true_eq, ge_iff_le,
      UInt32.le_iff_toNat_le] at h'
    have h₁ : 48 ≤ ch.toNat := h'.1
    have h₂ : ch.toNat ≤ 57 := h'.2
    omega
  simp [digitOf?, digitValue?, h, hlt]

/-- The parts of a number that starts with a digit, or with a dot and a digit, are stepped over,
whatever is made of them. -/
theorem consumes_parts {k : List Nat → Option (List Nat) → Option Exponent → Scanner Lexeme}
    (hk : ∀ w f e, Forward (k w f e)) {c : Cursor} {ch : Char} (h : c.current = .scalar ch)
    (hstart : ch.isDigit = true ∨
      ch = '.' ∧ ((c.peek 1).1.toChar?.any Char.isDigit) = true) :
    Consumes (do
      let whole ← whole
      let fraction? ← fraction
      let exponent? ← exponent
      k whole fraction? exponent?) c := by
  have hrest : ∀ w f, Forward (do
      let exponent? ← exponent
      k w f exponent?) :=
    fun w f => forward_exponent.bind fun _ => hk _ _ _
  rcases hstart with hdigit | ⟨rfl, hnext⟩
  · refine Consumes.bind ?_ fun w => forward_fraction.bind fun f => hrest w f
    unfold whole
    refine Consumes.of_bind (a := c.current) (d := c) rfl (Nat.le_refl _) ?_
    simp only [h, CodePoint.toChar?, Option.any_some, hdigit, if_true]
    exact consumes_digits h (isSome_digitOf?_ten hdigit)
  · have hwhole : whole c = .ok [] c := by
      show (if c.current.toChar?.any Char.isDigit then digits 10 else pure [] : Scanner _) c = _
      rw [h]
      rfl
    refine Consumes.of_bind hwhole (Nat.le_refl _) ?_
    refine Consumes.bind ?_ fun f => hrest [] f
    unfold fraction
    refine Consumes.of_bind (a := c.current) (d := c) rfl (Nat.le_refl _) ?_
    refine Consumes.of_bind (a := (c.peek 1).1) (d := (c.peek 1).2) rfl
      (Nat.le_of_eq (c.remaining_peek 1)) ?_
    simp only [h, hnext]
    apply (consumes_skip (c := (c.peek 1).2) ((c.current_peek 1).trans h) 0).bind
    intro _
    exact (forward_digits 10).bind fun _ => forward_pure _

theorem consumes_decimalNumber {c : Cursor} {ch : Char} (h : c.current = .scalar ch)
    (hstart : ch.isDigit = true ∨
      ch = '.' ∧ ((c.peek 1).1.toChar?.any Char.isDigit) = true) : Consumes decimalNumber c :=
  consumes_parts (fun _ _ _ => forward_numberLexeme _) h hstart

theorem consumes_basedNumber {c : Cursor} {ch : Char} (h : c.current = .scalar ch) (base : Base) :
    Consumes (basedNumber base) c := by
  unfold basedNumber
  apply (consumes_skip h 1).bind
  intro _
  apply forward_index.bind
  intro _
  apply (forward_digits _).bind
  intro ds
  split
  · exact forward_fail _
  · exact forward_numberLexeme _

theorem consumes_leadingZero (c : Cursor) : Consumes leadingZero c := fun _ _ h => by cases h

end Lexis.Scanner
