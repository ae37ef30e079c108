import Lexis.Proofs.Beside.Numbers
import Lexis.Proofs.Beside.Openings
import Lexis.Proofs.Beside.Quotes
import Lexis.Proofs.Beside.Words

/-!
# Tokens agree

The scanners that openings select agree, and a token in front of the end of the input is found as
well in front of a line feed or a closing brace (`agree_scanAt`).
-/

namespace Lexis

open CharClass

namespace Opening

/-- What an opening tells of the beginning of a word or of a line comment. -/
def Tells (ch : Char) (ahead : List Char) : Opening → Prop
  | .lineComment _ => ch = '/' ∧ ∃ rest, ahead = '/' :: rest
  | .escapedName => ch = 'r' ∧ ∃ next rest, ahead = '#' :: next :: rest ∧ isIdentStart next = true
  | .name => isIdentStart ch = true
  | .unexpected d => d = ch ∧ ch.isDigit = false ∧ isIdentStart ch = false ∧
    Operator.recognize? (ch :: ahead) = none
  | _ => True

theorem tells_of (ch : Char) (ahead : List Char) : (Opening.of ch ahead).Tells ch ahead := by
  have hfound := found_of ch ahead
  generalize Opening.of ch ahead = opening at hfound
  cases hfound with
  | lineComment => exact ⟨rfl, _, rfl⟩
  | escapedName hstart => exact ⟨rfl, _, _, rfl, hstart⟩
  | name hstart => exact hstart
  | unexpected hdigit hstart hspelled => exact ⟨rfl, hdigit, hstart, hspelled⟩
  | _ => trivial

end Opening

namespace Scanner

variable {i j : Nat} {x y t : List Char} {c d : Cursor} {ch : Char}

/-- In front of a token the cursors see the same opening, and its scanner agrees. -/
theorem agree_scanner (h : Beside i j x y (ch :: t) c d)
    (hline : ∀ doc, Opening.of ch (t.take 3) = .lineComment doc →
      (∀ ch ∈ t, isLineTerminator ch = false) → y.head?.all isLineTerminator = true) :
    Agree i j x y (SameLexeme i j) ((Opening.of ch (t.take 3)).scanner c)
      ((Opening.of ch (t.take 3)).scanner d) := by
  have htells := Opening.tells_of ch (t.take 3)
  have hsees := Opening.sees_of ch (t.take 3)
  have hbegins := (Opening.begins_of ch (t.take 3)).extend
    (List.cons_prefix_cons.2 ⟨rfl, List.take_prefix 3 t⟩)
  have hbeside : ∀ word, word <+: ch :: t → ∃ u, Beside i j x y (word ++ u) c d := by
    rintro word ⟨u, hu⟩
    exact ⟨u, hu ▸ h⟩
  cases hstyle : (Opening.of ch (t.take 3)).style? with
  | some style =>
    rw [Opening.scanner_of_style? hstyle]
    obtain ⟨u, hu⟩ := hbeside _ (hbegins.of_style? hstyle)
    exact agree_quoted _ _ hu
  | none =>
    cases hopening : Opening.of ch (t.take 3) with
    | lineComment doc =>
      rw [hopening] at htells
      obtain ⟨rfl, rest, hrest⟩ := htells
      cases t with
      | nil => cases hrest
      | cons second t =>
        refine agree_lineComment doc h fun hall => hline doc hopening ?_
        rw [List.forall_mem_cons]
        obtain rfl : second = '/' := (List.cons.inj hrest).1
        exact ⟨rfl, hall⟩
    | blockComment legal =>
      rw [hopening] at hsees
      obtain ⟨rfl, hsecond⟩ := hsees
      cases t with
      | nil => cases hsecond
      | cons second t =>
        obtain rfl : second = '*' := Option.some.inj hsecond
        exact agree_blockComment legal h
    | string | tripleString | character | template =>
      rw [hopening] at hstyle
      cases hstyle
    | rawString =>
      rw [hopening] at hbegins
      obtain ⟨u, hu⟩ := hbeside _ hbegins
      exact agree_rawString hu
    | escapedName =>
      rw [hopening] at htells
      obtain ⟨rfl, next, rest, hrest, -⟩ := htells
      match t, hrest with
      | sign :: third :: t, _ => exact agree_escapedName h
    | number => exact agree_decimalNumber h
    | basedNumber base =>
      rw [hopening] at hsees
      obtain ⟨rfl, letter, hletter, -⟩ := hsees
      cases t with
      | nil => cases hletter
      | cons second t => exact agree_basedNumber base h
    | leadingZero => exact agree_leadingZero h
    | operator op =>
      rw [hopening] at hbegins
      refine agree_operator h (List.IsPrefix.trans hbegins ?_)
      rw [h.text_eq]
      exact List.prefix_append _ _
    | name => exact agree_name h
    | unexpected problem => exact agree_unexpected problem h

end Scanner

namespace Lexer

open Scanner (Beside Agree SameLexeme)

variable {i j : Nat} {y t : List Char} {c d : Cursor} {ch : Char}

/-- What is found at the end of the input is found in front of `y`, unless it is a line comment that
goes on there. -/
theorem agree_scanAt (h : Beside i j [] y (ch :: t) c d)
    (hline : ∀ doc, Opening.of ch (t.take 3) = .lineComment doc →
      (∀ ch ∈ t, isLineTerminator ch = false) → y.head?.all isLineTerminator = true) :
    Agree i j [] y (SameLexeme i j) (scanAt c ch) (scanAt d ch) := by
  have hahead := h.ahead (Cursor.passes_lookahead h.started 3)
    (Cursor.passes_lookahead h.started' 3)
  have hnext : (c.lookahead 3).1 = t.take 3 := by
    rw [c.lookahead_fst, h.started.upcoming_eq (h.text_eq.trans (List.append_nil _))]
  have hnext' : (d.lookahead 3).1 = t.take 3 ++ y.take (3 - t.length) := by
    rw [d.lookahead_fst, h.started'.upcoming_eq h.text_eq', List.append_eq, List.take_append]
  rw [scanAt, scanAt, hnext, hnext', Opening.of_append ch _ (h.detached.take _)]
  exact Scanner.agree_scanner hahead hline

end Lexer

end Lexis
