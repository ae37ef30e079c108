import Lexis.Proofs.Literal.Writing
import Lexis.Proofs.Scanner.Numbers

/-!
# The grammar of escapes

The content of a literal is read unit by unit: a code point that stands for itself, or a backslash
with what it escapes (`ContentUnit`). Decoding follows that grammar. A content that splits into
units denotes what they denote, and any other is at fault at the first place where no unit fits
(`decode_of_spells`).
-/

namespace Lexis

open CharClass

/-- A unit of a content, what it denotes, and the text behind it. -/
inductive ContentUnit : (unit denoted rest : List Char) → Prop
  | plain {ch : Char} {rest : List Char} (hch : ch ≠ '\\') : ContentUnit [ch] [ch] rest
  | simple {letter ch : Char} {rest : List Char} (hsimple : (letter, ch) ∈ simpleEscapes) :
      ContentUnit ['\\', letter] [ch] rest
  | lineBreak {rest : List Char} : ContentUnit ['\\', '\r', '\n'] [] rest
  | lineEnd {ch : Char} {rest : List Char} (hline : isLineTerminator ch = true)
      (hnot : ch = '\r' → rest.head? ≠ some '\n') : ContentUnit ['\\', ch] [] rest
  | hex {high low : HexDigit} {ch : Char} {rest : List Char}
      (hvalue : ch.toNat = HexDigit.number [high, low]) (hle : ch.toNat ≤ 0x7F) :
      ContentUnit ['\\', 'x', high.char, low.char] [ch] rest
  | number {digits : List HexDigit} {ch : Char} {rest : List Char}
      (hvalue : ch.toNat = HexDigit.number digits) (hne : digits ≠ [])
      (hlength : digits.length ≤ 6) :
      ContentUnit ('\\' :: 'u' :: '\x7b' :: (digits.map HexDigit.char ++ ['\x7d'])) [ch] rest

/-- The code points passed are units in front of the rest, and the text is what they denote. -/
inductive Denotes : (passed text rest : List Char) → Prop
  | nil (rest : List Char) : Denotes [] [] rest
  | cons {unit denoted passed text rest : List Char}
      (hunit : ContentUnit unit denoted (passed ++ rest)) (hrest : Denotes passed text rest) :
      Denotes (unit ++ passed) (denoted ++ text) rest

/-- There is a text, and no unit fits at its beginning. -/
structure Unfit (text : List Char) : Prop where
  ne_nil : text ≠ []
  no_unit : ∀ unit denoted rest, text = unit ++ rest → ¬ ContentUnit unit denoted rest

/-- What is wrong with a backslash that begins no unit: the code point behind it tells. -/
def escapeFault : (behind : List Char) → EscapeErrorKind
  | [] => .invalidEscape '\\'
  | ch :: _ =>
    if ch = 'x' then .invalidHexEscape
    else if ch = 'u' then .invalidUnicodeEscape
    else .invalidEscape ch

/-! ## Digits -/

namespace HexDigit

/-- The digit that a character is, if it is one. -/
def ofChar (ch : Char) (value : Fin 16) : HexDigit := ⟨value, ch.isUpper⟩

theorem char_ofChar {ch : Char} {value : Nat} (h : digitValue? ch = some value) :
    ∃ hlt : value < 16, (ofChar ch ⟨value, hlt⟩).char = ch := by
  have hascii : isAscii ch = true := isAscii_of_isNumberChar (isNumberChar_of_digitValue? h)
  have hlt : ch.toNat < 128 := of_decide_eq_true hascii
  have hall : ∀ n : Fin 128, ∀ value ∈ digitValue? (Char.ofNat n), ∃ hlt : value < 16,
      (ofChar (Char.ofNat n) ⟨value, hlt⟩).char = Char.ofNat n := by decide
  have hfound := hall ⟨ch.toNat, hlt⟩ value
  rw [Char.ofNat_toNat] at hfound
  exact hfound h

theorem exists_char_eq {ch : Char} {value : Nat} (h : digitValue? ch = some value) :
    ∃ digit : HexDigit, digit.char = ch := by
  obtain ⟨hlt, hchar⟩ := char_ofChar h
  exact ⟨_, hchar⟩

theorem exists_map_char_eq {text : List Char} (h : ∀ ch ∈ text, Escape.isHexDigit ch = true) :
    ∃ digits : List HexDigit, digits.map char = text := by
  induction text with
  | nil => exact ⟨[], rfl⟩
  | cons ch text ih =>
    rw [List.forall_mem_cons] at h
    obtain ⟨value, hvalue⟩ := Option.isSome_iff_exists.1 h.1
    obtain ⟨digit, rfl⟩ := exists_char_eq hvalue
    obtain ⟨digits, rfl⟩ := ih h.2
    exact ⟨digit :: digits, rfl⟩

theorem size_map_char (digits : List HexDigit) : Utf8.size (digits.map char) = digits.length := by
  have hascii : ∀ ch ∈ digits.map char, isAscii ch = true := by
    intro ch hch
    obtain ⟨digit, -, rfl⟩ := List.mem_map.1 hch
    exact isAscii_char digit
  rw [Utf8.size_eq_length hascii, List.length_map]

end HexDigit

/-! ## Escapes are units -/

theorem toNat_ofNat {n : Nat} (h : n.isValidChar) : (Char.ofNat n).toNat = n := by
  rw [Char.ofNat, dif_pos h]
  rfl

namespace Escape

variable {start : Nat} {behind rest denoted unit : List Char} {escape : Escape} {e : EscapeError}

theorem mem_simpleEscapes {letter ch : Char} (h : simple? letter = some ch) :
    (letter, ch) ∈ simpleEscapes := by
  unfold simple? at h
  split_ifs at h with hn ht hr hzero hsame
  · cases h; subst hn; decide
  · cases h; subst ht; decide
  · cases h; subst hr; decide
  · cases h; subst hzero; decide
  · cases h
    obtain rfl | rfl | rfl | rfl | rfl | rfl := hsame <;> decide

theorem exists_unit_of_ofHex (h : ofHex start behind = .ok escape) :
    ∃ unit, behind = unit ++ escape.rest ∧
      ContentUnit ('\\' :: 'x' :: unit) escape.denoted?.toList escape.rest := by
  unfold ofHex at h
  split at h
  · cases h
  · split at h
    · cases h
    · cases h
    · rename_i first high second rest hfirst
      split at h
      · cases h
      · rename_i low hsecond
        split_ifs at h with hlarge
        cases h
        obtain ⟨digit, rfl⟩ := HexDigit.exists_char_eq hfirst
        obtain ⟨digit', rfl⟩ := HexDigit.exists_char_eq hsecond
        rw [HexDigit.digitValue?_char, Option.some.injEq] at hfirst hsecond
        subst hfirst hsecond
        have hvalid : (digit.value.val * 16 + digit'.value.val).isValidChar := .inl (by omega)
        have hnumber : HexDigit.number [digit, digit'] =
            digit.value.val * 16 + digit'.value.val := by
          rw [← HexDigit.numberOf_map_char]
          simp [numberOf, HexDigit.digitValue?_char]
        refine ⟨[digit.char, digit'.char], rfl, .hex ?_ ?_⟩
        · rw [toNat_ofNat hvalid, hnumber]
        · rw [toNat_ofNat hvalid]
          exact Nat.le_of_not_lt hlarge

theorem exists_unit_of_ofNumber (h : ofNumber start behind = .ok escape) :
    ∃ unit, behind = unit ++ escape.rest ∧
      ContentUnit ('\\' :: 'u' :: unit) escape.denoted?.toList escape.rest := by
  unfold ofNumber at h
  split at h
  · rename_i inside
    simp only at h
    by_cases hlong : 6 < (inside.takeWhile isHexDigit).length
    · rw [if_pos hlong] at h
      cases h
    rw [if_neg hlong] at h
    split at h
    · rename_i rest hdrop
      split_ifs at h with hempty hvalid
      cases h
      have hall : ∀ ch ∈ inside.takeWhile isHexDigit, isHexDigit ch = true := fun ch hch =>
        List.all_eq_true.1 List.all_takeWhile ch hch
      obtain ⟨digits, hdigits⟩ := HexDigit.exists_map_char_eq hall
      have hinside : inside = digits.map HexDigit.char ++ '\x7d' :: rest := by
        rw [hdigits, ← hdrop, List.takeWhile_append_dropWhile]
      rw [← hdigits, List.length_map] at hlong
      rw [← hdigits, List.isEmpty_map, List.isEmpty_iff] at hempty
      rw [← hdigits, HexDigit.numberOf_map_char] at hvalid ⊢
      refine ⟨'\x7b' :: (digits.map HexDigit.char ++ ['\x7d']), ?_, ?_⟩
      · simp [hinside]
      · exact .number (toNat_ofNat hvalid) hempty (Nat.le_of_not_lt hlong)
    · cases h
  · cases h

theorem exists_unit_of_ofLineEnd {ch : Char} (h : isLineTerminator ch = true) (behind : List Char) :
    ∃ unit, ch :: behind = unit ++ (ofLineEnd ch behind).rest ∧
      ContentUnit ('\\' :: unit) (ofLineEnd ch behind).denoted?.toList
        (ofLineEnd ch behind).rest := by
  unfold ofLineEnd
  split
  · exact ⟨['\r', '\n'], rfl, .lineBreak⟩
  · rename_i hnot
    refine ⟨[ch], rfl, .lineEnd h ?_⟩
    rintro rfl hhead
    obtain ⟨more, rfl⟩ := List.head?_eq_some_iff.1 hhead
    exact hnot more rfl rfl

/-- An escape that is read is a unit. -/
theorem exists_unit_of_read (h : read start behind = .ok escape) :
    ∃ unit, behind = unit ++ escape.rest ∧
      ContentUnit ('\\' :: unit) escape.denoted?.toList escape.rest := by
  unfold read at h
  split at h
  · cases h
  · rename_i ch behind
    split at h
    · rename_i denoted hsimple
      cases h
      exact ⟨[ch], rfl, .simple (mem_simpleEscapes hsimple)⟩
    · split_ifs at h with hline hx hu
      · cases h
        exact exists_unit_of_ofLineEnd hline behind
      · subst hx
        obtain ⟨unit, rfl, hunit⟩ := exists_unit_of_ofHex h
        exact ⟨'x' :: unit, rfl, hunit⟩
      · subst hu
        obtain ⟨unit, rfl, hunit⟩ := exists_unit_of_ofNumber h
        exact ⟨'u' :: unit, rfl, hunit⟩

theorem read_lineEnd {ch : Char} (hline : isLineTerminator ch = true) :
    read start (ch :: rest) = .ok (ofLineEnd ch rest) := by
  have hsimple : simple? ch = none := by
    simp only [isLineTerminator, Bool.or_eq_true, beq_iff_eq] at hline
    obtain ((rfl | rfl) | rfl) | rfl := hline <;> decide
  rw [read, hsimple]
  exact if_pos hline

/-- A unit that begins with a backslash is read as it is. -/
theorem read_of_unit (start : Nat) (h : ContentUnit ('\\' :: unit) denoted rest) :
    ∃ denoted?, read start (unit ++ rest) = .ok ⟨denoted?, Utf8.size unit, rest⟩ ∧
      denoted?.toList = denoted := by
  cases h with
  | plain hch => exact absurd rfl hch
  | simple hsimple =>
    rename_i letter ch
    have hall : ∀ pair ∈ simpleEscapes, pair.1.utf8Size = 1 := by decide
    have hsize : Utf8.size [letter] = 1 := hall (letter, ch) hsimple
    rw [hsize]
    exact ⟨some ch, read_simple hsimple, rfl⟩
  | lineBreak => exact ⟨none, read_lineEnd rfl, rfl⟩
  | lineEnd hline hnot =>
    rename_i ch
    have hread : ofLineEnd ch rest = ⟨none, Utf8.size [ch], rest⟩ := by
      unfold ofLineEnd
      split
      · exact absurd rfl (hnot rfl)
      · rfl
    exact ⟨none, (read_lineEnd hline).trans (congrArg _ hread), rfl⟩
  | hex hvalue hle =>
    rename_i high low ch
    have hsize : Utf8.size ('x' :: [high, low].map HexDigit.char) = 3 := by
      rw [Utf8.size_cons, HexDigit.size_map_char]
      rfl
    refine ⟨some ch, ?_, rfl⟩
    rw [show ['x', high.char, low.char] = 'x' :: [high, low].map HexDigit.char from rfl, hsize]
    exact read_hex hvalue hle
  | number hvalue hne hlength =>
    rename_i digits ch
    have hsize : Utf8.size ('u' :: '\x7b' :: (digits.map HexDigit.char ++ ['\x7d'])) =
        digits.length + 3 := by
      rw [Utf8.size_cons, Utf8.size_cons, Utf8.size_append, HexDigit.size_map_char]
      change 1 + (1 + (digits.length + 1)) = digits.length + 3
      omega
    have hread : read start ('u' :: '\x7b' :: (digits.map HexDigit.char ++ '\x7d' :: rest)) =
        .ok ⟨some ch, digits.length + 3, rest⟩ := read_number hvalue hne hlength
    refine ⟨some ch, ?_, rfl⟩
    rw [hsize]
    simpa using hread

/-! ## Faults -/

/-- The error is of the kind, and its span covers what the text at its start begins with. -/
def Spoils (start : Nat) (text : List Char) (kind : EscapeErrorKind) (e : EscapeError) : Prop :=
  ∃ covered, covered <+: text ∧ covered ≠ [] ∧ e = ⟨⟨start, start + Utf8.size covered⟩, kind⟩

theorem spoils_of_isAscii (covered : List Char) {text : List Char} (hbegins : covered <+: text)
    (hne : covered ≠ []) (hascii : ∀ ch ∈ covered, isAscii ch = true) (kind : EscapeErrorKind) :
    Spoils start text kind ⟨.ofLength start covered.length, kind⟩ := by
  refine ⟨covered, hbegins, hne, ?_⟩
  rw [Utf8.size_eq_length hascii]
  rfl

theorem spoils_of_letter {letter : Char} (covered : List Char) (hletter : isAscii letter = true)
    (hbegins : covered <+: behind) (hascii : ∀ ch ∈ covered, isAscii ch = true)
    (kind : EscapeErrorKind) :
    Spoils start ('\\' :: letter :: behind) kind
      ⟨.ofLength start (covered.length + 2), kind⟩ := by
  refine spoils_of_isAscii ('\\' :: letter :: covered) ?_ (List.cons_ne_nil _ _) ?_ _
  · exact List.cons_prefix_cons.2 ⟨rfl, List.cons_prefix_cons.2 ⟨rfl, hbegins⟩⟩
  · exact List.forall_mem_cons.2 ⟨rfl, List.forall_mem_cons.2 ⟨hletter, hascii⟩⟩

theorem isAscii_of_isHexDigit {ch : Char} (h : isHexDigit ch = true) : isAscii ch = true := by
  obtain ⟨value, hvalue⟩ := Option.isSome_iff_exists.1 h
  exact isAscii_of_isNumberChar (isNumberChar_of_digitValue? hvalue)

theorem spoils_of_ofHex (h : ofHex start behind = .error e) :
    Spoils start ('\\' :: 'x' :: behind) .invalidHexEscape e := by
  have hbad : ∀ digits : List Char, digits <+: behind →
      (∀ ch ∈ digits, (digitValue? ch).isSome = true) →
      Spoils start ('\\' :: 'x' :: behind) .invalidHexEscape (badHex start (digits.length + 2)) :=
    fun digits hbegins hdigits =>
      spoils_of_letter digits rfl hbegins (fun ch hch => isAscii_of_isHexDigit (hdigits ch hch)) _
  unfold ofHex at h
  split at h
  · cases h
    exact hbad [] List.nil_prefix (List.forall_mem_nil _)
  · rename_i first text
    split at h
    · cases h
      exact hbad [] List.nil_prefix (List.forall_mem_nil _)
    · rename_i hfirst
      cases h
      exact hbad [first] (List.prefix_refl _) (by simp [hfirst])
    · rename_i second rest hfirst
      split at h
      · cases h
        exact hbad [first] (List.prefix_append [first] _) (by simp [hfirst])
      · rename_i hsecond
        split_ifs at h
        cases h
        exact hbad [first, second] (List.prefix_append [first, second] _)
          (by simp [hfirst, hsecond])

theorem spoils_of_ofNumber (h : ofNumber start behind = .error e) :
    Spoils start ('\\' :: 'u' :: behind) .invalidUnicodeEscape e := by
  have hbad : ∀ (covered : List Char) {n : Nat}, covered <+: behind →
      (∀ ch ∈ covered, isAscii ch = true) → n = covered.length + 2 →
      Spoils start ('\\' :: 'u' :: behind) .invalidUnicodeEscape (badNumber start n) := by
    rintro covered n hbegins hascii rfl
    exact spoils_of_letter covered rfl hbegins hascii _
  unfold ofNumber at h
  split at h
  · rename_i inside
    have hdigits : ∀ ch ∈ inside.takeWhile isHexDigit, isAscii ch = true := fun ch hch =>
      isAscii_of_isHexDigit (List.all_eq_true.1 List.all_takeWhile ch hch)
    have hbrace : ∀ (covered : List Char) {n : Nat}, covered <+: inside →
        (∀ ch ∈ covered, isAscii ch = true) → n = covered.length + 3 →
        Spoils start ('\\' :: 'u' :: '\x7b' :: inside) .invalidUnicodeEscape (badNumber start n) :=
      fun covered _ hbegins hascii hn => hbad ('\x7b' :: covered)
        (List.cons_prefix_cons.2 ⟨rfl, hbegins⟩) (List.forall_mem_cons.2 ⟨rfl, hascii⟩) hn
    simp only at h
    by_cases hlong : 6 < (inside.takeWhile isHexDigit).length
    · rw [if_pos hlong] at h
      cases h
      -- Reading stops at the digit that is one too many.
      have hbegins := (List.take_prefix 7 _).trans (inside.takeWhile_prefix isHexDigit)
      refine hbrace _ hbegins (fun ch hch => hdigits ch (List.mem_of_mem_take hch)) ?_
      rw [List.length_take, Nat.min_eq_left hlong]
    rw [if_neg hlong] at h
    split at h
    · rename_i rest hdrop
      split_ifs at h with hempty hvalid
      · cases h
        exact hbrace [] List.nil_prefix (List.forall_mem_nil _) rfl
      · cases h
        refine hbrace (inside.takeWhile isHexDigit ++ ['\x7d']) ⟨rest, ?_⟩ ?_ ?_
        · rw [List.append_assoc, List.singleton_append, ← hdrop, List.takeWhile_append_dropWhile]
        · exact List.forall_mem_append.2 ⟨hdigits, List.forall_mem_singleton.2 rfl⟩
        · rw [List.length_append]
          rfl
    · cases h
      exact hbrace _ (inside.takeWhile_prefix isHexDigit) hdigits rfl
  · cases h
    exact hbad [] List.nil_prefix (List.forall_mem_nil _) rfl

theorem spoils_of_read (h : read start behind = .error e) :
    Spoils start ('\\' :: behind) (escapeFault behind) e := by
  unfold read at h
  split at h
  · cases h
    exact ⟨['\\'], List.prefix_refl _, List.cons_ne_nil _ _, rfl⟩
  · rename_i ch behind
    split at h
    · cases h
    · split_ifs at h with hline hx hu
      · subst hx
        exact spoils_of_ofHex h
      · subst hu
        exact spoils_of_ofNumber h
      · cases h
        rw [escapeFault, if_neg hx, if_neg hu]
        exact ⟨['\\', ch], List.prefix_append ['\\', ch] behind, List.cons_ne_nil _ _, rfl⟩

end Escape

/-! ## Contents -/

section Contents

variable {unit denoted passed text rest behind body : List Char}

theorem ContentUnit.plain_or_backslash (h : ContentUnit unit denoted rest) :
    (∃ ch, ch ≠ '\\' ∧ unit = [ch] ∧ denoted = [ch]) ∨ ∃ behind, unit = '\\' :: behind := by
  cases h with
  | plain hch => exact .inl ⟨_, hch, rfl, rfl⟩
  | _ => exact .inr ⟨_, rfl⟩

theorem ContentUnit.unescape_eq (h : ContentUnit unit denoted rest) (offset : Nat) :
    unescape offset (unit ++ rest) =
      (unescape (offset + Utf8.size unit) rest).map (denoted ++ ·) := by
  obtain ⟨ch, hch, rfl, rfl⟩ | ⟨behind, rfl⟩ := h.plain_or_backslash
  · exact unescape_cons hch
  · obtain ⟨denoted?, hread, rfl⟩ := Escape.read_of_unit offset h
    rw [List.cons_append, unescape_backslash hread, Utf8.size_cons, ← Nat.add_assoc]
    rfl

theorem Denotes.unescape_eq (h : Denotes passed text rest) (offset : Nat) :
    unescape offset (passed ++ rest) =
      (unescape (offset + Utf8.size passed) rest).map (text ++ ·) := by
  induction h generalizing offset with
  | nil rest => cases hrest : unescape offset rest <;> simp [hrest, Except.map]
  | @cons unit denoted passed text rest hunit _ ih =>
    rw [List.append_assoc, hunit.unescape_eq, ih, Utf8.size_append, ← Nat.add_assoc]
    cases unescape (offset + Utf8.size unit + Utf8.size passed) rest with
    | error e => rfl
    | ok more => simp only [Except.map, List.append_assoc]

theorem Denotes.unescape_eq_ok (h : Denotes body text []) (offset : Nat) :
    unescape offset body = .ok text := by
  have hall := h.unescape_eq offset
  rw [List.append_nil, unescape_of_not_mem List.not_mem_nil] at hall
  rw [hall, Except.map, List.append_nil]

theorem Unfit.exists_read_eq_error (h : Unfit ('\\' :: behind)) (start : Nat) :
    ∃ e, Escape.read start behind = .error e := by
  cases hread : Escape.read start behind with
  | error e => exact ⟨e, rfl⟩
  | ok escape =>
    obtain ⟨unit, rfl, hunit⟩ := Escape.exists_unit_of_read hread
    exact absurd hunit (h.no_unit _ _ _ rfl)

theorem unfit_of_read_eq_error {start : Nat} {e : EscapeError}
    (h : Escape.read start behind = .error e) : Unfit ('\\' :: behind) := by
  refine ⟨List.cons_ne_nil _ _, fun unit denoted rest htext hunit => ?_⟩
  obtain ⟨ch, hch, rfl, -⟩ | ⟨more, rfl⟩ := hunit.plain_or_backslash
  · exact hch (List.cons.inj htext).1.symm
  · obtain ⟨denoted?, hread, -⟩ := Escape.read_of_unit start hunit
    have hbehind : behind = more ++ rest := (List.cons.inj htext).2
    rw [← hbehind, h] at hread
    cases hread

/-- Decoding fails where no unit fits. -/
theorem Denotes.unescape_eq_error (h : Denotes passed text ('\\' :: behind))
    (hunfit : Unfit ('\\' :: behind)) (offset : Nat) :
    ∃ e, unescape offset (passed ++ '\\' :: behind) = .error e ∧
      Escape.Spoils (offset + Utf8.size passed) ('\\' :: behind) (escapeFault behind) e := by
  obtain ⟨e, hread⟩ := hunfit.exists_read_eq_error (offset + Utf8.size passed)
  refine ⟨e, ?_, Escape.spoils_of_read hread⟩
  rw [h.unescape_eq, unescape, if_pos rfl]
  split
  · rename_i hread'
    rw [hread] at hread'
    cases hread'
    rfl
  · rename_i hread'
    rw [hread] at hread'
    cases hread'

/-- There is a first place in the content where no unit fits. -/
def IsBroken (body : List Char) : Prop :=
  ∃ passed text behind, body = passed ++ '\\' :: behind ∧ Denotes passed text ('\\' :: behind) ∧
    Unfit ('\\' :: behind)

theorem ContentUnit.denotes_or_isBroken (h : ContentUnit unit denoted rest)
    (hrest : (∃ text, Denotes rest text []) ∨ IsBroken rest) :
    (∃ text, Denotes (unit ++ rest) text []) ∨ IsBroken (unit ++ rest) := by
  obtain ⟨text, htext⟩ | ⟨passed, text, behind, rfl, htext, hunfit⟩ := hrest
  · exact .inl ⟨_, .cons (by rwa [List.append_nil]) htext⟩
  · exact .inr ⟨_, _, behind, (List.append_assoc _ _ _).symm, .cons h htext, hunfit⟩

/-- A content splits into units, or there is a first place where none fits. -/
theorem denotes_or_isBroken (body : List Char) :
    (∃ text, Denotes body text []) ∨ IsBroken body := by
  fun_induction unescape 0 body with
  | case1 => exact .inl ⟨[], .nil []⟩
  | case2 offset behind e hread =>
    exact .inr ⟨[], [], behind, rfl, .nil _, unfit_of_read_eq_error hread⟩
  | case3 offset behind escape hread _ ih =>
    obtain ⟨unit, rfl, hunit⟩ := Escape.exists_unit_of_read hread
    exact hunit.denotes_or_isBroken ih
  | case4 offset ch text hch ih => exact (ContentUnit.plain hch).denotes_or_isBroken ih

end Contents

/-! ## Tokens -/

namespace Token

/-- What the token denotes if its content denotes the text. -/
def ofContent (t : Token) (text : List Char) : Except EscapeError String :=
  if t.kind = .charLiteral ∧ text.length ≠ 1 then .error ⟨t.span, .charLength text.length⟩
  else .ok (String.ofList text)

variable {t : Token} {bytes : ByteArray} {body : List Char}

theorem decode_eq_bind (hquoted : t.kind.isQuoted = true)
    (hbody : Utf8.Spells bytes (t.bodySpan bytes).start (t.bodySpan bytes).stop body) :
    t.decode bytes =
      (if t.flags.raw then .ok body else unescape (t.bodySpan bytes).start body).bind
        t.ofContent := by
  have hslice : (t.bodySpan bytes).slice? bytes = some body.utf8Encode := hbody.slice?_eq
  simp only [decode, hquoted, hslice, Option.bind_some, Utf8.fromUTF8?_utf8Encode,
    String.toList_ofList, Bool.not_true, Bool.false_eq_true, if_false]
  split <;> rename_i hdecoded <;> rw [hdecoded] <;> rfl

end Token

/-- Decoding a literal follows the grammar of escapes. If its content splits into units, the literal
denotes what they denote. If not, there is a first place where no unit fits, and decoding fails
there for the reason that is found behind the backslash. -/
theorem decode_of_spells (t : Token) (source : ByteArray) (body : List Char)
    (hquoted : t.kind.isQuoted = true) (hraw : t.flags.raw = false)
    (hbody : Utf8.Spells source (t.bodySpan source).start (t.bodySpan source).stop body) :
    (∀ text, Denotes body text [] → t.decode source =
      if t.kind = .charLiteral ∧ text.length ≠ 1 then
        .error ⟨t.span, .charLength text.length⟩
      else .ok (String.ofList text)) ∧
    ((¬ ∃ text, Denotes body text []) →
      ∃ passed text behind e, body = passed ++ '\\' :: behind ∧
        Denotes passed text ('\\' :: behind) ∧ Unfit ('\\' :: behind) ∧
        t.decode source = .error e ∧
        e.span.start = (t.bodySpan source).start + Utf8.size passed ∧
        e.kind = escapeFault behind) := by
  have hdecode := Token.decode_eq_bind hquoted hbody
  rw [hraw, if_neg Bool.false_ne_true] at hdecode
  constructor
  · intro text htext
    rw [hdecode, htext.unescape_eq_ok]
    rfl
  · intro hnot
    obtain ⟨passed, text, behind, rfl, htext, hunfit⟩ :=
      (denotes_or_isBroken body).resolve_left hnot
    obtain ⟨e, hfails, covered, -, -, rfl⟩ := htext.unescape_eq_error hunfit
      (t.bodySpan source).start
    rw [hfails] at hdecode
    exact ⟨passed, text, behind, _, rfl, htext, hunfit, hdecode, rfl, rfl⟩

/-- A string with a number, a dropped line end and a letter. -/
def threeUnits : Token := { kind := .stringLiteral, offset := 0, len := 9 }

theorem decode_of_spells_threeUnits :
    threeUnits.kind.isQuoted = true ∧ threeUnits.flags.raw = false ∧
      threeUnits.decode "\"\\x41\\\nb\"".toUTF8 = .ok "Ab" := by
  let body := ['\\', 'x', '4', '1', '\\', '\n', 'b']
  have hbody : Utf8.Spells "\"\\x41\\\nb\"".toUTF8 1 8 body := ⟨by decide, by decide, by decide⟩
  have hb : Denotes ['b'] ['b'] [] := .cons (.plain (by decide)) (.nil [])
  have hline : Denotes ['\\', '\n', 'b'] ['b'] [] := .cons (.lineEnd rfl (by decide)) hb
  have hnumber : ('A' : Char).toNat = HexDigit.number [⟨4, false⟩, ⟨1, false⟩] := rfl
  have hall : Denotes body ['A', 'b'] [] := .cons (.hex hnumber (by decide)) hline
  exact ⟨rfl, rfl, (decode_of_spells threeUnits _ body rfl rfl hbody).1 _ hall⟩

end Lexis
