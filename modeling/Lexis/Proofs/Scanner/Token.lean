import Lexis.Lexer
import Lexis.Proofs.Scanner.Numbers
import Lexis.Proofs.Scanner.Quotes
import Lexis.Proofs.Scanner.Words

/-!
# Every opening is recognised

The scanner that an opening selects is right about its place. Three of them rely on what the opening
has seen: the delimiter of a block comment, the letter of a base, and what follows a leading zero.
-/

namespace Lexis

open CharClass

namespace Opening

/-- What an opening has seen that its scanner relies on. -/
def Sees (ch : Char) (ahead : List Char) : Opening → Prop
  | .blockComment _ => ch = '/' ∧ ahead.head? = some '*'
  | .basedNumber base =>
    ch = '0' ∧ ∃ letter, ahead.head? = some letter ∧ Base.ofLetter? letter = some base
  | .leadingZero => ch = '0' ∧ ∃ second, ahead.head? = some second ∧ isNumberChar second = true
  | _ => True

theorem sees_of (ch : Char) (ahead : List Char) : (Opening.of ch ahead).Sees ch ahead := by
  have hfound := found_of ch ahead
  generalize Opening.of ch ahead = opening at hfound
  cases hfound with
  | blockComment => exact ⟨rfl, rfl⟩
  | basedNumber hletter => exact ⟨rfl, _, rfl, hletter⟩
  | leadingZero hsecond =>
    refine ⟨rfl, _, rfl, ?_⟩
    obtain hdigit | rfl := hsecond
    · simp [isNumberChar, Char.isAlphanum, hdigit]
    · rfl
  | _ => trivial

theorem recognizes_scanner {c : Cursor} {ch : Char} {rest : List Char} (h : c.Started)
    (htext : c.text = ch :: rest) :
    Scanner.Recognizes (Opening.of ch (rest.take 3)).scanner c := by
  have hsees := sees_of ch (rest.take 3)
  have hhead : ∀ next, (rest.take 3).head? = some next → ∃ tail, rest = next :: tail := by
    intro next hnext
    cases rest with
    | nil => simp at hnext
    | cons first tail => exact ⟨tail, by simpa using hnext⟩
  cases hopening : Opening.of ch (rest.take 3) with
  | lineComment doc => exact Scanner.recognizes_lineComment h doc
  | blockComment legal =>
    rw [hopening] at hsees
    obtain ⟨rfl, hnext⟩ := hsees
    obtain ⟨tail, rfl⟩ := hhead _ hnext
    exact Scanner.recognizes_blockComment h htext legal
  | string => exact Scanner.recognizes_string h
  | tripleString => exact Scanner.recognizes_tripleString h
  | character => exact Scanner.recognizes_character h
  | template => exact Scanner.recognizes_template h
  | rawString => exact Scanner.recognizes_rawString h
  | escapedName => exact Scanner.recognizes_escapedName h
  | number => exact Scanner.recognizes_decimalNumber h
  | basedNumber base =>
    rw [hopening] at hsees
    obtain ⟨rfl, letter, hnext, hletter⟩ := hsees
    obtain ⟨tail, rfl⟩ := hhead _ hnext
    exact Scanner.recognizes_basedNumber h htext hletter
  | leadingZero =>
    rw [hopening] at hsees
    obtain ⟨rfl, second, hnext, hsecond⟩ := hsees
    obtain ⟨tail, rfl⟩ := hhead _ hnext
    exact Scanner.recognizes_leadingZero h htext hsecond
  | operator op => exact Scanner.recognizes_operator h op
  | name => exact Scanner.recognizes_name h
  | unexpected d => exact Scanner.recognizes_unexpected (h.current_of_text_cons htext) d

end Opening

namespace Lexer

variable {c c' : Cursor} {ch : Char}

theorem recognizes_scanAt (hcur : c.current = .scalar ch) : Scanner.Recognizes
    (Opening.of ch (c.lookahead 3).1).scanner (c.lookahead 3).2 := by
  have hstart := Cursor.Started.of_scalar hcur
  have hahead := Cursor.passes_lookahead hstart 3
  rw [Cursor.lookahead_fst]
  apply Opening.recognizes_scanner hahead.started
  rw [hahead.text_eq_of_nil, Cursor.text_of_scalar hcur]

/-- A token that is found is some text at the cursor. -/
theorem scanAt_ok {lexeme : Lexeme} (hcur : c.current = .scalar ch)
    (hscan : scanAt c ch = .ok lexeme c') :
    (∃ passed, passed ≠ [] ∧ c.Passes passed c') ∧ lexeme.Fits c.index c'.index := by
  have hstart := Cursor.Started.of_scalar hcur
  have hahead := Cursor.passes_lookahead hstart 3
  have hlt := remaining_scanAt_lt hcur hscan
  have hends := recognizes_scanAt hcur
  unfold Scanner.Recognizes Scanner.Ends at hends
  unfold scanAt at hscan
  rw [hscan, hahead.index_eq_of_nil] at hends
  obtain ⟨⟨passed, hpassed⟩, hfits⟩ := hends
  refine ⟨⟨passed, ?_, hahead.trans hpassed⟩, hfits⟩
  -- A scan that passed nothing would not have got closer to the end.
  rintro rfl
  rw [(hahead.trans hpassed).remaining_eq_of_nil hstart] at hlt
  exact Nat.lt_irrefl _ hlt

/-- A scan that fails finds its error in the text at the cursor. -/
theorem scanAt_error {e : LexError} (hcur : c.current = .scalar ch)
    (hscan : scanAt c ch = .error e c') : e.LiesIn c.index c.text := by
  have hahead := Cursor.passes_lookahead (Cursor.Started.of_scalar hcur) 3
  have hends := recognizes_scanAt hcur
  unfold Scanner.Recognizes Scanner.Ends at hends
  unfold scanAt at hscan
  rw [hscan, hahead.index_eq_of_nil, hahead.text_eq_of_nil] at hends
  exact hends

end Lexer

end Lexis
