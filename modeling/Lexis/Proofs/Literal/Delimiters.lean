import Lexis.Literal
import Lexis.Proofs.Lexer.Calls

/-!
# Delimiters of quoted tokens

A quoted token keeps no record of its delimiters: their lengths are found again from its flags, its
first byte and a count of its number signs. `Token.Quotes` says how a token is spelled, and for such
a token what is found again is right (`Token.Quotes.bodySpan_eq`).
-/

namespace Lexis

open CharClass

namespace Utf8

theorem getElem?_of_charAt? {bytes : ByteArray} {offset : Nat} {ch : Char}
    (h : charAt? bytes offset = some ch) (hascii : isAscii ch = true) :
    bytes[offset]? = some (UInt8.ofNat ch.toNat) := by
  obtain ⟨hlt, hbyte, rfl⟩ := eq_ofUInt8_of_isAscii h hascii
  rw [getElem?_pos bytes offset hlt]
  refine congrArg some (UInt8.toNat_inj.1 ?_)
  have hval : (Char.ofUInt8 bytes[offset]).toNat = bytes[offset].toNat := UInt8.toNat_toUInt32 _
  rw [hval, UInt8.toNat_ofNat', Nat.mod_eq_of_lt bytes[offset].toNat_lt]

end Utf8

/-! ## Number signs -/

theorem hashesAt_eq_zero {bytes : ByteArray} {offset : Nat} (h : bytes[offset]? ≠ some 0x23) :
    hashesAt bytes offset = 0 := by
  unfold hashesAt
  by_cases hlt : offset < bytes.size
  · rw [getElem?_pos bytes offset hlt, ne_eq, Option.some.injEq] at h
    rw [dif_pos hlt, if_neg h]
  · rw [dif_neg hlt]

theorem hashesAt_succ {bytes : ByteArray} {offset : Nat} (h : bytes[offset]? = some 0x23) :
    hashesAt bytes offset = hashesAt bytes (offset + 1) + 1 := by
  obtain ⟨hlt, hbyte⟩ := getElem?_eq_some_iff.1 h
  rw [hashesAt, dif_pos hlt, if_pos hbyte]

theorem hashesAt_of_spells {bytes : ByteArray} {start stop n : Nat} {rest : List Char}
    (h : Utf8.Spells bytes start stop (List.replicate n '#' ++ '"' :: rest)) :
    hashesAt bytes start = n := by
  induction n generalizing start with
  | zero =>
    have hquote := Utf8.getElem?_of_charAt? (Utf8.Spells.cons_iff.1 h).1 rfl
    apply hashesAt_eq_zero
    rw [hquote]
    decide
  | succ n ih =>
    obtain ⟨hsign, hmore⟩ := Utf8.Spells.cons_iff.1 h
    rw [hashesAt_succ (Utf8.getElem?_of_charAt? hsign rfl)]
    exact congrArg Nat.succ (ih hmore)

/-! ## Delimiters -/

namespace QuoteStyle

/-- A body may stand behind the delimiter. A template goes on behind a brace as well. -/
def Opens (style : QuoteStyle) (delimiter : List Char) : Prop :=
  delimiter = style.opening ∨ style = .template ∧ delimiter = ['\x7d']

/-- The kinds that a literal of the style can be of behind a delimiter. -/
inductive Heads : QuoteStyle → (delimiter : List Char) → TokenKind → Prop
  | opening (style : QuoteStyle) (ending : Ending) : Heads style style.opening (style.kind ending)
  | continuation (ending : Ending) : Heads .template ['\x7d'] (Scanner.continuationKind ending)

/-- The lengths of the delimiters, opening and closing. -/
def widths : QuoteStyle → Nat × Nat
  | .tripleString => (3, 3)
  | .raw hashes => (hashes + 2, hashes + 1)
  | _ => (1, 1)

theorem closing_mem_closers (style : QuoteStyle) : (style.closing, .closed) ∈ style.closers := by
  cases style <;> exact List.mem_cons_self

variable {style : QuoteStyle} {delimiter closer : List Char} {ending : Ending} {kind : TokenKind}

theorem Heads.opens (h : style.Heads delimiter kind) : style.Opens delimiter := by
  cases h with
  | opening => exact .inl rfl
  | continuation => exact .inr ⟨rfl, rfl⟩

theorem Heads.isQuoted (h : style.Heads delimiter kind) : kind.isQuoted = true := by
  cases h with
  | opening style ending => exact style.isQuoted_kind ending
  | continuation ending => cases ending <;> rfl

theorem Heads.eq_charLiteral_iff (h : style.Heads delimiter kind) :
    kind = .charLiteral ↔ style = .character := by
  cases h with
  | opening style ending => exact style.kind_eq_charLiteral_iff ending
  | continuation ending => cases ending <;> exact iff_of_false nofun nofun

theorem size_hashes (n : Nat) : Utf8.size (List.replicate n '#') = n := by
  have hascii : ∀ c ∈ List.replicate n '#', isAscii c = true := by
    intro c hc
    rw [List.eq_of_mem_replicate hc]
    rfl
  rw [Utf8.size_eq_length hascii, List.length_replicate]

theorem size_of_opens (h : style.Opens delimiter) : Utf8.size delimiter = style.widths.1 := by
  obtain rfl | ⟨rfl, rfl⟩ := h
  · cases style with
    | raw hashes =>
      calc Utf8.size (opening (.raw hashes))
          = 1 + (Utf8.size (List.replicate hashes '#') + 1) :=
            congrArg (1 + ·) (Utf8.size_append _ _)
        _ = hashes + 2 := by rw [size_hashes, Nat.add_comm]
    | _ => rfl
  · rfl

theorem size_of_mem_closers (h : (closer, ending) ∈ style.closers) :
    Utf8.size closer = style.widths.2 := by
  cases style with
  | raw hashes =>
    simp only [closers, List.mem_singleton, Prod.mk.injEq] at h
    rw [h.1, Utf8.size_cons, size_hashes]
    exact Nat.add_comm 1 _
  | template =>
    simp only [closers, List.mem_cons, List.not_mem_nil, or_false, Prod.mk.injEq] at h
    obtain ⟨rfl, _⟩ | ⟨rfl, _⟩ := h <;> rfl
  | _ =>
    simp only [closers, List.mem_singleton, Prod.mk.injEq] at h
    rw [h.1]
    rfl

/-- What the body at the offset denotes. -/
def decodeBody (style : QuoteStyle) (offset : Nat) (body : List Char) :
    Except EscapeError (List Char) :=
  if style.hasEscapes then unescape offset body else .ok body

theorem raw_flags (style : QuoteStyle) : style.flags.raw = !style.hasEscapes := by
  cases style <;> rfl

end QuoteStyle

namespace Token

/-- The token is spelled as a body of the style between delimiters, and its kind and flags tell the
style as far as they can. -/
structure Quotes (t : Token) (bytes : ByteArray) (style : QuoteStyle)
    (delimiter body closer : List Char) : Prop where
  spells : Utf8.Spells bytes t.offset t.stop (delimiter ++ body ++ closer)
  opens : style.Opens delimiter
  closes : ∃ ending, (closer, ending) ∈ style.closers
  isQuoted : t.kind.isQuoted = true
  character_iff : t.kind = .charLiteral ↔ style = .character
  multiLine_eq : t.flags.multiLine = style.flags.multiLine
  raw_eq : t.flags.raw = style.flags.raw

namespace Quotes

variable {t : Token} {bytes : ByteArray} {style : QuoteStyle}
  {delimiter body closer text : List Char}

theorem getElem?_offset {ch : Char} {more : List Char}
    (h : t.Quotes bytes style (ch :: more) body closer) (hascii : isAscii ch = true) :
    bytes[t.offset]? = some (UInt8.ofNat ch.toNat) :=
  Utf8.getElem?_of_charAt? (Utf8.Spells.cons_iff.1 h.spells).1 hascii

theorem hashesAt_eq {hashes : Nat}
    (h : t.Quotes bytes (.raw hashes) (QuoteStyle.raw hashes).opening body closer) :
    hashesAt bytes (t.offset + 1) = hashes := by
  have hspells := h.spells
  rw [QuoteStyle.opening, List.append_assoc, List.cons_append, List.cons_append,
    List.append_assoc] at hspells
  exact hashesAt_of_spells (Utf8.Spells.cons_iff.1 hspells).2

theorem delimiters_eq (h : t.Quotes bytes style delimiter body closer) :
    t.delimiters bytes = style.widths := by
  unfold delimiters
  rw [h.raw_eq, h.multiLine_eq]
  obtain hopening | ⟨rfl, rfl⟩ := h.opens
  · subst hopening
    cases style with
    | raw hashes => exact congrArg (fun n => (n + 2, n + 1)) h.hashesAt_eq
    | tripleString =>
      rw [h.getElem?_offset rfl]
      rfl
    | template =>
      rw [h.getElem?_offset rfl]
      rfl
    | _ => rfl
  · rw [h.getElem?_offset rfl]
    rfl

/-- The delimiters that are found again enclose the body. -/
theorem bodySpan_eq (h : t.Quotes bytes style delimiter body closer) :
    t.bodySpan bytes =
      ⟨t.offset + Utf8.size delimiter, t.offset + Utf8.size delimiter + Utf8.size body⟩ := by
  obtain ⟨ending, hcloses⟩ := h.closes
  have hstop := h.spells.stop_eq
  have hopening := QuoteStyle.size_of_opens h.opens
  have hcloser := QuoteStyle.size_of_mem_closers hcloses
  rw [Utf8.size_append, Utf8.size_append] at hstop
  simp only [bodySpan, h.delimiters_eq, ← hopening, ← hcloser, Span.mk.injEq]
  omega

theorem slice?_bodySpan (h : t.Quotes bytes style delimiter body closer) :
    (t.bodySpan bytes).slice? bytes = some body.utf8Encode := by
  have hspells := h.spells
  rw [List.append_assoc] at hspells
  rw [h.bodySpan_eq]
  exact hspells.split.2.split.1.slice?_eq

theorem decode_eq (h : t.Quotes bytes style delimiter body closer)
    (hbody : style.decodeBody (t.offset + Utf8.size delimiter) body = .ok text)
    (hlength : style = .character → text.length = 1) :
    t.decode bytes = .ok (String.ofList text) := by
  have hdecoded : (if t.flags.raw then .ok body
      else unescape (t.offset + Utf8.size delimiter) body) = .ok text := by
    rw [h.raw_eq, QuoteStyle.raw_flags, ← hbody, QuoteStyle.decodeBody]
    cases style.hasEscapes <;> rfl
  have hsingle : ¬ (t.kind = .charLiteral ∧ text.length ≠ 1) := by
    rintro ⟨hkind, hne⟩
    exact hne (hlength (h.character_iff.1 hkind))
  have hstart : (t.bodySpan bytes).start = t.offset + Utf8.size delimiter := by
    rw [h.bodySpan_eq]
  simp only [decode, h.isQuoted, h.slice?_bodySpan, hstart, Option.bind_some,
    Utf8.fromUTF8?_utf8Encode, String.toList_ofList, hdecoded, if_neg hsingle, Bool.not_true,
    Bool.false_eq_true, if_false]

end Quotes

end Token

/-! ## Tokens of quoted lexemes -/

namespace Lexer

open Scanner (quotedLexeme kind_quotedLexeme)

theorem raw_quotedLexeme (kind : TokenKind) (flags : TokenFlags) (text? : Option String) :
    (quotedLexeme kind flags text?).flags.raw = flags.raw ∧
      (quotedLexeme kind flags text?).flags.multiLine = flags.multiLine := by
  unfold quotedLexeme
  split
  · exact ⟨rfl, rfl⟩
  · exact ⟨Bool.or_false _, Bool.or_false _⟩

theorem quotes_tokenOf {bytes : ByteArray} {style : QuoteStyle} {delimiter body closer : List Char}
    {ending : Ending} {kind : TokenKind} {start : Nat} {c : Cursor}
    (hspells : Utf8.Spells bytes start c.index (delimiter ++ body ++ closer))
    (hopens : style.Opens delimiter) (hcloses : (closer, ending) ∈ style.closers)
    (hquoted : kind.isQuoted = true) (hcharacter : kind = .charLiteral ↔ style = .character)
    (text? : Option String) (newline : Bool) :
    (tokenOf (quotedLexeme kind style.flags text?) start newline c).Quotes
      bytes style delimiter body closer := by
  obtain ⟨hraw, hmulti⟩ := raw_quotedLexeme kind style.flags text?
  have hkind := kind_quotedLexeme kind style.flags text?
  have hstop : (tokenOf (quotedLexeme kind style.flags text?) start newline c).stop = c.index :=
    stop_tokenOf hspells.start_le newline
  refine ⟨hstop ▸ hspells, hopens, ⟨ending, hcloses⟩, ?_, ?_, ?_, ?_⟩
  · rw [tokenOf, hkind, hquoted]
  · rw [tokenOf, hkind, hcharacter]
  · exact (Bool.or_false _).trans hmulti
  · exact (Bool.or_false _).trans hraw

end Lexer

end Lexis
