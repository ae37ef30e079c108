import Lexis.Proofs.Lexer.Converted
import Lexis.Proofs.Lexer.Single
import Lexis.Proofs.Number.Value

/-!
# Numbers in a source

The tokens that are numbers are the literals of the grammar, and each literal alone is a number
(`numbers_ofSource`). Integers are the ones that their digits spell (`integers_ofSource`), and
separators make no difference to a number (`ofSource_withoutSeparators`).
-/

namespace Lexis

open CharClass

/-- A number literal of the grammar. -/
def IsNumberText (text : List Char) : Prop := ∃ n : Numeral, n.WrittenAs text

def TokenKind.IsNumber (kind : TokenKind) : Prop := kind = .intLiteral ∨ kind = .floatLiteral

theorem isWhitespace_of_isDigit {ch : Char} (h : ch.isDigit = true) : isWhitespace ch = false := by
  have hfirst : 48 ≤ ch.toNat := (Char.isDigit_iff_toNat.1 h).1
  have hlast : ch.toNat ≤ 57 := (Char.isDigit_iff_toNat.1 h).2
  simp only [isWhitespace, Bool.or_eq_false_iff, Bool.and_eq_false_iff, decide_eq_false_iff_not,
    beq_eq_false_iff_ne]
  omega

/-- A literal begins with a digit or a dot. -/
theorem Numeral.WrittenAs.exists_cons {n : Numeral} {text : List Char} (h : n.WrittenAs text) :
    ∃ ch rest, text = ch :: rest ∧ isWhitespace ch = false ∧ ch ≠ '#' := by
  cases h with
  | based => exact ⟨_, _, rfl, by decide, by decide⟩
  | fraction => exact ⟨_, _, rfl, by decide, by decide⟩
  | decimal hwhole =>
    obtain ⟨ch, rest, rfl, hdigit⟩ := hwhole.group.exists_cons
    have hfirst := isDigit_of_digitOf? hdigit
    refine ⟨ch, _, rfl, isWhitespace_of_isDigit hfirst, ?_⟩
    rintro rfl
    cases hfirst

namespace Lexer

variable {source : Source} {t : Token}

/-- What a token that is a number is. -/
structure IsNumeral (source : Source) (t : Token) (n : Numeral) (text : List Char) : Prop where
  spells : Utf8.Spells source.contents t.offset t.stop text
  written : n.WrittenAs text
  kind_eq : t.kind = Scanner.numberKind n.value
  value?_eq : t.value? = some n.value
  alone : (Utf8.textFrom source.contents t.stop).head?.any isIdentStart = false

/-- A number that a name follows without a gap. -/
def IsSpoilt (source : Source) (t : Token) (text : List Char) : Prop :=
  Utf8.Spells source.contents t.offset t.stop text ∧ ∃ number first name,
    text = number ++ first :: name ∧ IsNumberText number ∧ isIdentStart first = true ∧
      (∀ ch ∈ name, isIdentContinue ch = true) ∧
      (Utf8.textFrom source.contents t.stop).head?.any isIdentContinue = false

theorem opening_of_isNumberKind {opening : Opening} {kind : TokenKind} (h : opening.Makes kind)
    (hkind : Scanner.IsNumberKind kind) :
    (opening = .number ∨ ∃ base, opening = .basedNumber base) ∨
      ∃ ch, opening = .unexpected ch ∧ kind = .syntaxError := by
  cases opening with
  | number => exact .inl (.inl rfl)
  | basedNumber base => exact .inl (.inr ⟨base, rfl⟩)
  | unexpected ch => exact .inr ⟨ch, rfl, h⟩
  | leadingZero => exact h.elim
  | template | escapedName =>
    obtain rfl | rfl := h <;> obtain hkind | hkind | hkind := hkind <;> cases hkind
  | name => obtain rfl | ⟨k, rfl⟩ := h <;> obtain hkind | hkind | hkind := hkind <;> cases hkind
  | _ => cases h; obtain hkind | hkind | hkind := hkind <;> cases hkind

/-- A token that begins with a number is a literal, or one that a name spoils. -/
theorem isNumeral_or_isSpoilt {c c' : Cursor} {lexeme : Lexeme} (hat : At source c)
    (hfound : Scanner.FindsNumber c lexeme c') (newline : Bool) :
    (∃ n text, IsNumeral source (tokenOf lexeme c.index newline c') n text) ∨
      lexeme.kind = .syntaxError ∧
        ∃ text, IsSpoilt source (tokenOf lexeme c.index newline c') text := by
  obtain ⟨n, text, d, hpass, hwritten, hlexeme⟩ := hfound
  have hbehind := hat.of_passes hpass
  rw [Scanner.numberLexeme_eq n.value hpass.started] at hlexeme
  split at hlexeme
  · rename_i hstart
    cases hlexeme
    cases htext : d.text with
    | nil =>
      rw [htext] at hstart
      cases hstart
    | cons first rest =>
      rw [htext] at hstart
      have hname := Scanner.passes_skipName (hpass.started.current_of_text_cons htext)
      have hupcoming : d.upcoming =
          d.upcoming.takeWhile isIdentContinue ++ (Scanner.skipName d).text := by
        have hsplit := hname.text_eq
        rw [Cursor.text_of_scalar (hpass.started.current_of_text_cons htext)] at hsplit
        exact (List.cons.inj hsplit).2
      have hend : (Scanner.skipName d).text.head?.any isIdentContinue = false :=
        Cursor.any_head?_of_takeWhile_append
          (congrArg (List.takeWhile isIdentContinue) hupcoming).symm
      have hspells := hat.spells (hpass.trans hname)
      rw [(hbehind.of_passes hname).text_eq,
        ← stop_tokenOf hspells.start_le newline] at hend
      rw [← stop_tokenOf hspells.start_le newline] at hspells
      refine .inr ⟨rfl, _, hspells, text, first, _, rfl, ⟨n, hwritten⟩, hstart, ?_, hend⟩
      exact fun ch hch => List.all_eq_true.1 List.all_takeWhile ch hch
  · rename_i hname
    cases hlexeme
    have hspells := hat.spells hpass
    rw [hbehind.text_eq, ← stop_tokenOf hspells.start_le newline] at hname
    rw [← stop_tokenOf hspells.start_le newline] at hspells
    exact .inl ⟨n, text, hspells, hwritten, rfl, rfl, eq_false_of_ne_true hname⟩

/-- A token of the kind of a number is one code point, a literal, or a literal with a name behind
it. -/
theorem Origin.of_isNumberKind (h : Origin source t) (hkind : Scanner.IsNumberKind t.kind) :
    (∃ n text, IsNumeral source t n text) ∨ t.kind = .syntaxError ∧
      ∃ text, Utf8.Spells source.contents t.offset t.stop text ∧
        (text.length = 1 ∨ IsSpoilt source t text) := by
  have hscanned : t.kind ∉ [TokenKind.endOfInput, .hashbang, .templateMiddle, .templateTail] := by
    obtain hkind | hkind | hkind := hkind <;> simp [hkind]
  obtain ⟨c, c', ch, lexeme, newline, hat, hcur, hscan, rfl⟩ := h.exists_scan hscanned
  obtain hnumber | ⟨d, hopening, herror⟩ :=
    opening_of_isNumberKind (makes_of_scanAt hscan) hkind
  · obtain hnumeral | ⟨herror, text, hspoilt⟩ :=
      isNumeral_or_isSpoilt hat (scanAt_sound hcur hscan hnumber) newline
    · exact .inl hnumeral
    · exact .inr ⟨herror, text, hspoilt.1, .inr hspoilt⟩
  · have hahead := Cursor.passes_lookahead hat.started 3
    have hcur' := (c.current_lookahead 3).trans hcur
    have hpass := hahead.trans (Cursor.passes_advance hcur')
    rw [scanAt, hopening] at hscan
    have hend : (c.lookahead 3).2.advance = c' := by
      cases hscan
      rfl
    rw [hend] at hpass
    have hspells := hat.spells hpass
    rw [← stop_tokenOf hspells.start_le newline] at hspells
    exact .inr ⟨herror, _, hspells, .inl rfl⟩

/-- Every number of a run is a literal of the source. -/
theorem exists_isNumeral (source : Source) (config : LexerConfig) {choices : List Bool}
    (ht : .ok t ∈ ((Lexer.ofSource source config).driven choices).1) (hkind : t.kind.IsNumber) :
    ∃ n text, IsNumeral source t n text := by
  have horigin := origin_of_mem_driven (ready_ofSource source config) nofun choices ht
  have hany : Scanner.IsNumberKind t.kind := hkind.elim .inl fun h => .inr (.inl h)
  obtain hnumeral | ⟨herror, -⟩ := horigin.of_isNumberKind hany
  · exact hnumeral
  · rw [herror] at hkind
    obtain hkind | hkind := hkind <;> cases hkind

end Lexer

/-- A literal alone is a single token with its value. -/
theorem LexedFile.isSingle_of_writtenAs {n : Numeral} {text : List Char} (h : n.WrittenAs text)
    {source : Source} (hsource : source.contents = text.utf8Encode) (config : LexerConfig) :
    ∃ t, (ofSource source config).IsSingle source t ∧ t.kind = Scanner.numberKind n.value ∧
      t.value? = some n.value := by
  obtain ⟨ch, rest, rfl, hblank, hsharp⟩ := h.exists_cons
  have hcomment : (Scanner.numberKind n.value).isComment = false := by
    cases n.value <;> rfl
  obtain ⟨c, -, hsingle⟩ := isSingle_ofSource config hsource hblank hsharp
    (fun c hc htext => Lexer.scanAt_complete h hc htext) hcomment rfl
  exact ⟨_, hsingle, rfl, rfl⟩

/-- Numbers are exactly their grammar: every number of a run is a literal with no name behind it, a
token with a syntax error is one code point or a literal that a name spoils, and each literal alone
is a number, of the kind that its digits call for. No number is malformed, provided that the
conversion of decimals refuses none; with the conversion that reads their values from their digits,
the run is the one that computes them. -/
theorem numbers_ofSource (convert : Conversion) (haccepts : convert.Accepts) (source : Source)
    (config : LexerConfig) (choices : List Bool) :
    (∀ t, .ok t ∈ ((Lexer.ofSource source config).driven choices).1 →
      (t.kind.IsNumber → ∃ text, Utf8.Spells source.contents t.offset t.stop text ∧
        IsNumberText text ∧
        (Utf8.textFrom source.contents t.stop).head?.any isIdentStart = false) ∧
      (t.kind = .syntaxError → ∃ text, Utf8.Spells source.contents t.offset t.stop text ∧
        (text.length = 1 ∨ Lexer.IsSpoilt source t text))) ∧
    (∀ n text, Numeral.WrittenAs n text → ∀ part config, part.contents = text.utf8Encode →
      ∃ t, (LexedFile.ofSource part config).IsSingle part t ∧ t.kind.IsNumber ∧
        (t.kind = .floatLiteral ↔ n.TakesFloat)) ∧
    (∀ e, .error (.fatal e) ∈ ((Lexer.ofSource source config).drivenBy convert choices).1 →
      e.kind ≠ .malformedNumber) ∧
    (Lexer.ofSource source config).drivenBy Binary64.ofText? choices =
      (Lexer.ofSource source config).driven choices := by
  have hgoing : (Lexer.ofSource source config).Going :=
    .inr (Lexer.ready_ofSource source config).cursor.started
  refine ⟨fun t ht => ⟨fun hkind => ?_, fun hkind => ?_⟩, ?_, fun e he => ?_,
    Lexer.drivenBy_ofText? hgoing choices⟩
  · obtain ⟨n, text, hnumeral⟩ := Lexer.exists_isNumeral source config ht hkind
    exact ⟨text, hnumeral.spells, ⟨n, hnumeral.written⟩, hnumeral.alone⟩
  · have horigin :=
      Lexer.origin_of_mem_driven (Lexer.ready_ofSource source config) nofun choices ht
    obtain ⟨n, text, hnumeral⟩ | ⟨-, hspelled⟩ := horigin.of_isNumberKind (.inr (.inr hkind))
    · have hnumber := (n.numberKind_value).1
      rw [← hnumeral.kind_eq, hkind] at hnumber
      obtain hbad | hbad := hnumber <;> cases hbad
    · exact hspelled
  · intro n text hwritten part config hpart
    obtain ⟨t, hsingle, hkind, -⟩ := LexedFile.isSingle_of_writtenAs hwritten hpart config
    obtain ⟨hnumber, hfloat⟩ := n.numberKind_value
    rw [← hkind] at hnumber hfloat
    exact ⟨t, hsingle, hnumber, hfloat⟩
  · exact Lexer.spares_drivenBy haccepts hgoing he

def sampleNumbers : Source := ⟨"numbers", "1_0.5e-2 0xF_F 3px".toUTF8, 0, by decide⟩

theorem numbers_ofSource_sampleNumbers :
    Conversion.Accepts Binary64.ofText? ∧
      (∃ t, .ok t ∈ ((Lexer.ofSource sampleNumbers {}).driven [false, false, true]).1 ∧
        t.kind = .syntaxError ∧ t.offset = 15 ∧ t.len = 3 ∧
        ∃ text, Utf8.Spells sampleNumbers.contents t.offset t.stop text ∧
          (text.length = 1 ∨ Lexer.IsSpoilt sampleNumbers t text)) ∧
      (∀ e, .error (.fatal e) ∈
          ((Lexer.ofSource sampleNumbers {}).drivenBy Binary64.ofText? [false, false, true]).1 →
        e.kind ≠ .malformedNumber) ∧
      (Lexer.ofSource sampleNumbers {}).drivenBy Binary64.ofText? [false, false, true] =
        (Lexer.ofSource sampleNumbers {}).driven [false, false, true] := by
  obtain ⟨htokens, -, herrors, hcomputed⟩ :=
    numbers_ofSource Binary64.ofText? accepts_ofText? sampleNumbers {} [false, false, true]
  let spoilt : Token := { kind := .syntaxError, offset := 15, len := 3 }
  have hmem : .ok spoilt ∈ ((Lexer.ofSource sampleNumbers {}).driven [false, false, true]).1 := by
    decide +kernel
  exact ⟨accepts_ofText?, ⟨spoilt, hmem, rfl, rfl, rfl, (htokens spoilt hmem).2 rfl⟩, herrors,
    hcomputed⟩

/-- Integers are exact: the value of an integer is the one that its digits spell in its base, and
with a marker it is an integer exactly if that fits into 64 bits. Where digits are few enough to be
taken in one by one, no step overflows. -/
theorem integers_ofSource (source : Source) (config : LexerConfig) (choices : List Bool) :
    (∀ t, .ok t ∈ ((Lexer.ofSource source config).driven choices).1 → t.kind.IsNumber →
      ∃ text, Utf8.Spells source.contents t.offset t.stop text ∧
        (t.kind = .intLiteral →
          ∃ v : UInt64, t.value? = some (.int v) ∧ v.toNat = integerOfText text) ∧
        ∀ base, markedBase? text = some base →
          (t.kind = .intLiteral ↔ integerOfText text < 2 ^ 64)) ∧
    ∀ c ds c', Scanner.whole c = .ok ds c' → ds.length < exactDigits → ∀ k,
      natOfDigits 10 (ds.take k) < 2 ^ 64 ∧
        (wordOfDigits (ds.take k)).toNat = natOfDigits 10 (ds.take k) := by
  refine ⟨fun t ht hkind => ?_, fun c ds c' hwhole hfew k => ?_⟩
  · obtain ⟨n, text, hnumeral⟩ := Lexer.exists_isNumeral source config ht hkind
    refine ⟨text, hnumeral.spells, fun hint => ?_, fun base hbase => ?_⟩
    · cases hvalue : n.value with
      | int v =>
        exact ⟨v, hvalue ▸ hnumeral.value?_eq, hnumeral.written.toNat_eq hvalue⟩
      | float bits =>
        rw [hnumeral.kind_eq, hvalue] at hint
        cases hint
      | text s => exact absurd hvalue (n.value_ne_text s)
    · obtain ⟨hnumber, hfloat⟩ := n.numberKind_value
      rw [← hnumeral.kind_eq] at hnumber hfloat
      rw [hnumeral.written.takesFloat_iff hbase] at hfloat
      rw [← Nat.not_le, ← hfloat]
      obtain hkind | hkind := hnumber <;> simp [hkind]
  · have hdigits : ∀ d ∈ ds.take k, d < 10 := fun d hd =>
      Scanner.lt_of_mem_whole hwhole d (List.mem_of_mem_take hd)
    have hfew' : (ds.take k).length < exactDigits :=
      Nat.lt_of_le_of_lt (List.length_take_le' k ds) hfew
    exact ⟨natOfDigits_lt_size hdigits hfew', toNat_wordOfDigits hdigits hfew'⟩

/-- The text of a number without its separators is a single token of the same kind and value. -/
theorem ofSource_withoutSeparators (source : Source) (config : LexerConfig) (choices : List Bool)
    (t : Token) (ht : .ok t ∈ ((Lexer.ofSource source config).driven choices).1)
    (hkind : t.kind.IsNumber) (text : List Char)
    (hspells : Utf8.Spells source.contents t.offset t.stop text) (part : Source)
    (hpart : part.contents = (withoutSeparators text).utf8Encode) (config' : LexerConfig) :
    ∃ t' v, (LexedFile.ofSource part config').IsSingle part t' ∧ t'.kind = t.kind ∧
      t.value? = some v ∧ t'.value? = some v := by
  obtain ⟨n, text', hnumeral⟩ := Lexer.exists_isNumeral source config ht hkind
  obtain rfl := hspells.unique hnumeral.spells
  obtain ⟨t', hsingle, hkind', hvalue'⟩ :=
    LexedFile.isSingle_of_writtenAs hnumeral.written.withoutSeparators hpart config'
  exact ⟨t', n.value, hsingle, hkind'.trans hnumeral.kind_eq.symm, hnumeral.value?_eq, hvalue'⟩

/-- The first number of the sample, its separator left out. -/
def plainNumber : Source := ⟨"plain", "10.5e-2".toUTF8, 1, by decide⟩

theorem ofSource_withoutSeparators_plainNumber :
    ∃ t ∈ (LexedFile.ofSource sampleNumbers {}).tokens, t.offset = 0 ∧ t.len = 8 ∧
      ∃ t' v, (LexedFile.ofSource plainNumber {}).IsSingle plainNumber t' ∧ t'.kind = t.kind ∧
        t.value? = some v ∧ t'.value? = some v := by
  let number : Token := {
    kind := .floatLiteral, offset := 0, len := 8, value? := some (.float 0x3FBAE147AE147AE1) }
  have hmem : number ∈ (LexedFile.ofSource sampleNumbers {}).tokens := by decide +kernel
  have hdriven : .ok number ∈ ((Lexer.ofSource sampleNumbers {}).driven [false]).1 := by
    decide +kernel
  have hspells : Utf8.Spells sampleNumbers.contents 0 8 "1_0.5e-2".toList :=
    ⟨by decide, by decide, rfl⟩
  exact ⟨number, hmem, rfl, rfl, ofSource_withoutSeparators sampleNumbers {} [false] number hdriven
    (.inr rfl) _ hspells plainNumber rfl {}⟩

end Lexis
