import Mathlib.Data.Nat.Digits.Defs
import Lexis.Literal
import Lexis.Proofs.Scanner.Units
import Lexis.Proofs.Utf8.Spelling

/-!
# Writing texts in quoted bodies

A code point can be written in a body as it is or by an escape, and one escape can have several
spellings. Whatever is chosen, the body is crossed by a scan and denotes the code points that were
written. A number between braces is the exception: a template takes the brace for an interpolation.
-/

namespace Lexis

open CharClass

/-! ## Decoding step by step -/

section Unescape

variable {offset : Nat} {ch : Char} {text : List Char}

theorem unescape_cons (h : ch ≠ '\\') :
    unescape offset (ch :: text) = (unescape (offset + ch.utf8Size) text).map (ch :: ·) := by
  rw [unescape, if_neg h]

theorem unescape_backslash {escape : Escape} (h : Escape.read offset text = .ok escape) :
    unescape offset ('\\' :: text) =
      (unescape (offset + 1 + escape.width) escape.rest).map (escape.denoted?.toList ++ ·) := by
  rw [unescape, if_pos rfl]
  split
  · rename_i hread
    rw [h] at hread
    cases hread
  · rename_i hread
    rw [h] at hread
    cases hread
    rfl

theorem unescape_escape {behind rest : List Char} (hascii : ∀ c ∈ behind, isAscii c = true)
    (hread : Escape.read offset (behind ++ rest) = .ok ⟨some ch, behind.length, rest⟩) :
    unescape offset ('\\' :: behind ++ rest) =
      (unescape (offset + Utf8.size ('\\' :: behind)) rest).map (ch :: ·) := by
  have hsize : Utf8.size ('\\' :: behind) = 1 + behind.length :=
    congrArg (1 + ·) (Utf8.size_eq_length hascii)
  rw [hsize, ← Nat.add_assoc]
  exact unescape_backslash hread

theorem unescape_of_not_mem (h : '\\' ∉ text) : unescape offset text = .ok text := by
  induction text generalizing offset with
  | nil => rw [unescape]
  | cons ch text ih =>
    obtain ⟨hch, hrest⟩ := not_or.1 (mt List.mem_cons.2 h)
    rw [unescape_cons (Ne.symm hch), ih hrest]
    rfl

end Unescape

/-! ## Digits -/

/-- A hexadecimal digit, small or capital. -/
structure HexDigit where
  value : Fin 16
  capital : Bool
  deriving DecidableEq

namespace HexDigit

def char (digit : HexDigit) : Char :=
  if digit.capital then (Nat.digitChar digit.value).toUpper else Nat.digitChar digit.value

/-- The number that the digits write, the most significant one first. -/
def number (digits : List HexDigit) : Nat := Nat.ofDigits 16 (digits.reverse.map (·.value.val))

theorem digitValue?_char (digit : HexDigit) : digitValue? digit.char = some digit.value.val := by
  have hall : ∀ value capital, digitValue? (char ⟨value, capital⟩) = some value.val := by decide
  exact hall digit.value digit.capital

theorem isAscii_char (digit : HexDigit) : isAscii digit.char = true := by
  have hall : ∀ value capital, isAscii (char ⟨value, capital⟩) = true := by decide
  exact hall digit.value digit.capital

theorem numberOf_map_char (digits : List HexDigit) :
    Escape.numberOf (digits.map char) = number digits := by
  have hstep : ∀ (n : Nat) (digit : HexDigit),
      n * 16 + (digitValue? digit.char).getD 0 = digit.value.val + 16 * n := by
    intro n digit
    rw [digitValue?_char, Option.getD_some, Nat.add_comm, Nat.mul_comm]
  rw [number, Nat.ofDigits_eq_foldr, List.foldr_map, List.foldr_reverse, Escape.numberOf,
    List.foldl_map]
  simp only [hstep, Nat.cast_id]

end HexDigit

/-! ## Pieces of a body -/

/-- How a code point is written. -/
inductive Writing where
  | verbatim
  /-- A backslash and a character that stands for the code point. -/
  | simple (letter : Char)
  /-- `\x` and two digits. -/
  | hex (high low : HexDigit)
  /-- `\u` and some digits between braces. -/
  | number (digits : List HexDigit)
  deriving DecidableEq

/-- What stands for what behind a backslash. -/
def simpleEscapes : List (Char × Char) := [
  ('n', '\n'), ('t', '\t'), ('r', '\r'), ('0', '\x00'), ('\\', '\\'), ('"', '"'), ('\'', '\''),
  ('\x60', '\x60'), ('\x7b', '\x7b'), ('\x7d', '\x7d')]

/-- A code point of a text and how it is written. -/
structure Piece where
  ch : Char
  writing : Writing
  deriving DecidableEq

namespace Piece

def spelling (piece : Piece) : List Char :=
  match piece.writing with
  | .verbatim => [piece.ch]
  | .simple letter => ['\\', letter]
  | .hex high low => ['\\', 'x', high.char, low.char]
  | .number digits => '\\' :: 'u' :: '\x7b' :: (digits.map HexDigit.char ++ ['\x7d'])

def isNumber (piece : Piece) : Bool :=
  match piece.writing with
  | .number _ => true
  | _ => false

/-- The code point may be written so in a body of the style, as far as decoding is concerned. -/
def Fits (style : QuoteStyle) (piece : Piece) : Prop :=
  match piece.writing with
  | .verbatim => style.Plain piece.ch
  | .simple letter => (letter, piece.ch) ∈ simpleEscapes
  | .hex high low => piece.ch.toNat = HexDigit.number [high, low] ∧ piece.ch.toNat ≤ 0x7F
  | .number digits => piece.ch.toNat = HexDigit.number digits ∧ digits ≠ [] ∧ digits.length ≤ 6

instance (style : QuoteStyle) : (piece : Piece) → Decidable (piece.Fits style)
  | ⟨ch, .verbatim⟩ => inferInstanceAs (Decidable (style.Plain ch))
  | ⟨ch, .simple letter⟩ => inferInstanceAs (Decidable ((letter, ch) ∈ simpleEscapes))
  | ⟨ch, .hex high low⟩ =>
    inferInstanceAs (Decidable (ch.toNat = HexDigit.number [high, low] ∧ ch.toNat ≤ 0x7F))
  | ⟨ch, .number digits⟩ => inferInstanceAs
    (Decidable (ch.toNat = HexDigit.number digits ∧ digits ≠ [] ∧ digits.length ≤ 6))

/-- The text of a body. -/
def spell (pieces : List Piece) : List Char := pieces.flatMap spelling

end Piece

/-! ## Escapes are read back -/

namespace Escape

variable {start : Nat} {ch letter : Char} {digits : List HexDigit} {rest : List Char}

theorem read_x (start : Nat) (text : List Char) : read start ('x' :: text) = ofHex start text := rfl

theorem read_u (start : Nat) (text : List Char) :
    read start ('u' :: text) = ofNumber start text := rfl

theorem read_simple (h : (letter, ch) ∈ simpleEscapes) :
    read start (letter :: rest) = .ok ⟨some ch, 1, rest⟩ := by
  have hall : ∀ pair ∈ simpleEscapes, simple? pair.1 = some pair.2 := by decide
  have hletter : simple? letter = some ch := hall (letter, ch) h
  rw [read, hletter]

theorem read_hex {high low : HexDigit} (hvalue : ch.toNat = HexDigit.number [high, low])
    (hle : ch.toNat ≤ 0x7F) :
    read start ('x' :: high.char :: low.char :: rest) = .ok ⟨some ch, 3, rest⟩ := by
  have hnumber : high.value.val * 16 + low.value.val = ch.toNat := by
    rw [hvalue, ← HexDigit.numberOf_map_char]
    simp [numberOf, HexDigit.digitValue?_char]
  simp only [read_x, ofHex, HexDigit.digitValue?_char]
  rw [if_neg (by omega), hnumber, Char.ofNat_toNat]

theorem read_number (hvalue : ch.toNat = HexDigit.number digits) (hne : digits ≠ [])
    (hlength : digits.length ≤ 6) :
    read start ('u' :: '\x7b' :: (digits.map HexDigit.char ++ '\x7d' :: rest)) =
      .ok ⟨some ch, digits.length + 3, rest⟩ := by
  have hdigits : ∀ c ∈ digits.map HexDigit.char, isHexDigit c = true := by
    intro c hc
    obtain ⟨digit, -, rfl⟩ := List.mem_map.1 hc
    rw [isHexDigit, HexDigit.digitValue?_char]
    rfl
  have hbrace : ¬ isHexDigit '\x7d' = true := by decide
  have htake : (digits.map HexDigit.char ++ '\x7d' :: rest).takeWhile isHexDigit =
      digits.map HexDigit.char := by
    rw [List.takeWhile_append_of_pos hdigits, List.takeWhile_cons_of_neg hbrace, List.append_nil]
  have hdrop : (digits.map HexDigit.char ++ '\x7d' :: rest).dropWhile isHexDigit =
      '\x7d' :: rest := by
    rw [List.dropWhile_append_of_pos hdigits, List.dropWhile_cons_of_neg hbrace]
  have hvalid : ch.toNat.isValidChar := ch.valid
  simp only [read_u, ofNumber, htake, hdrop, HexDigit.numberOf_map_char, ← hvalue, List.length_map,
    List.isEmpty_map]
  rw [if_neg (by omega), if_neg (by simpa using hne), if_pos hvalid, Char.ofNat_toNat]

end Escape

theorem HexDigit.forall_mem_braces {p : Char → Prop} (hopen : p '\x7b')
    (hdigit : ∀ digit : HexDigit, p digit.char) (hclose : p '\x7d') (digits : List HexDigit) :
    ∀ c ∈ '\x7b' :: (digits.map HexDigit.char ++ ['\x7d']), p c := by
  intro c hc
  rw [List.mem_cons, List.mem_append, List.mem_map, List.mem_singleton] at hc
  obtain rfl | ⟨digit, -, rfl⟩ | rfl := hc
  · exact hopen
  · exact hdigit digit
  · exact hclose

namespace Piece

variable {style : QuoteStyle} {piece : Piece} {pieces : List Piece} {rest : List Char}

theorem unescape_spelling (h : piece.Fits style) (offset : Nat) (rest : List Char) :
    unescape offset (piece.spelling ++ rest) =
      (unescape (offset + Utf8.size piece.spelling) rest).map (piece.ch :: ·) := by
  obtain ⟨ch, writing⟩ := piece
  cases writing with
  | verbatim =>
    have hplain : style.Plain ch := h
    exact unescape_cons hplain.not_backslash
  | simple letter =>
    have hall : ∀ pair ∈ simpleEscapes, isAscii pair.1 = true := by decide
    have hletter : isAscii letter = true := hall (letter, ch) h
    exact unescape_escape (List.forall_mem_singleton.2 hletter) (Escape.read_simple h)
  | hex high low =>
    obtain ⟨hvalue, hle⟩ := h
    refine unescape_escape ?_ (Escape.read_hex hvalue hle)
    simp [HexDigit.isAscii_char]
    decide
  | number digits =>
    obtain ⟨hvalue, hne, hlength⟩ := h
    have hbraces := HexDigit.forall_mem_braces (p := (isAscii · = true)) rfl
      HexDigit.isAscii_char rfl digits
    have hread : Escape.read offset
        ('u' :: '\x7b' :: (digits.map HexDigit.char ++ '\x7d' :: rest)) =
          .ok ⟨some ch, digits.length + 3, rest⟩ := Escape.read_number hvalue hne hlength
    refine unescape_escape (List.forall_mem_cons.2 ⟨rfl, hbraces⟩) ?_
    simpa using hread

theorem unescape_spell (h : ∀ piece ∈ pieces, piece.Fits style) (offset : Nat) :
    unescape offset (spell pieces) = .ok (pieces.map ch) := by
  induction pieces generalizing offset with
  | nil => exact unescape_of_not_mem List.not_mem_nil
  | cons piece pieces ih =>
    rw [List.forall_mem_cons] at h
    rw [spell, List.flatMap_cons, unescape_spelling h.1]
    exact congrArg (Except.map (piece.ch :: ·)) (ih h.2 _)

/-! ## Bodies are crossed -/

theorem plain_digit (style : QuoteStyle) (digit : HexDigit) : style.Plain digit.char := by
  have hall : ∀ value capital,
      HexDigit.char ⟨value, capital⟩ ∉ ['\\', '"', '\'', '\x60', '\x7b'] ∧
        isLineTerminator (HexDigit.char ⟨value, capital⟩) = false := by decide
  obtain ⟨hnot, hline⟩ := hall digit.value digit.capital
  simp only [List.mem_cons, not_or] at hnot
  refine ⟨hnot.1, ?_, fun _ => hline⟩
  cases style <;> simp [QuoteStyle.marks, hnot]

theorem plain_brace (hstyle : style ≠ .template) : style.Plain '\x7b' := by
  refine ⟨by decide, ?_, fun _ => by decide⟩
  cases style <;> simp [QuoteStyle.marks] at hstyle ⊢

theorem plain_closeBrace (style : QuoteStyle) : style.Plain '\x7d' := by
  refine ⟨by decide, ?_, fun _ => by decide⟩
  cases style <;> simp [QuoteStyle.marks]

theorem crosses_spelling (hescapes : style.hasEscapes = true) (h : piece.Fits style)
    (hnumber : style = .template → piece.isNumber = false) (rest : List Char) :
    style.Crosses piece.spelling rest := by
  obtain ⟨ch, writing⟩ := piece
  cases writing with
  | verbatim => exact QuoteStyle.crosses_of_plain (List.forall_mem_singleton.2 h) rest
  | simple letter =>
    have hall : ∀ pair ∈ simpleEscapes, pair.1 ≠ '\r' := by decide
    exact QuoteStyle.crosses_escape hescapes (hall (letter, ch) h) rest
  | hex high low =>
    have hdigits : style.Crosses [high.char, low.char] rest := by
      apply QuoteStyle.crosses_of_plain
      rw [List.forall_mem_cons, List.forall_mem_singleton]
      exact ⟨plain_digit style high, plain_digit style low⟩
    exact (QuoteStyle.crosses_escape hescapes (by decide) _).append hdigits
  | number digits =>
    have hstyle : style ≠ .template := fun heq => Bool.noConfusion (hnumber heq)
    have hbraces : style.Crosses ('\x7b' :: (digits.map HexDigit.char ++ ['\x7d'])) rest := by
      apply QuoteStyle.crosses_of_plain
      exact HexDigit.forall_mem_braces (plain_brace hstyle) (plain_digit style)
        (plain_closeBrace style) digits
    exact (QuoteStyle.crosses_escape hescapes (by decide) _).append hbraces

theorem crosses_spell (hescapes : style.hasEscapes = true) (h : ∀ piece ∈ pieces, piece.Fits style)
    (hnumber : style = .template → ∀ piece ∈ pieces, piece.isNumber = false) (rest : List Char) :
    style.Crosses (spell pieces) rest := by
  induction pieces with
  | nil => exact .nil rest
  | cons piece pieces ih =>
    rw [List.forall_mem_cons] at h
    simp only [List.forall_mem_cons] at hnumber
    rw [spell, List.flatMap_cons]
    exact (crosses_spelling hescapes h.1 (fun heq => (hnumber heq).1) _).append
      (ih h.2 fun heq => (hnumber heq).2)

end Piece

end Lexis
