import Lexis.Cursor.Decoding
import Lexis.Proofs.Token.KeywordTable
import Lexis.Proofs.Utf8.Encoding

/-!
# Decoding inverts encoding

Decoding by announced widths finds a code point where the bytes begin with its encoding, and the end
of the input where they are malformed. Repeated from the start of a buffer, it visits the text that
the buffer begins with (`decodeAt_inverts`).
-/

namespace Lexis

open Utf8 (charAt? IsBoundary)

variable {bytes : ByteArray} {offset width : Nat} {ch : Char}

theorem Utf8.charAt?_eq_some_iff_prefix :
    charAt? bytes offset = some ch ↔
      String.utf8EncodeChar ch <+: bytes.data.toList.drop offset := by
  rw [charAt?_eq_some_iff, List.prefix_iff_eq_take, String.length_utf8EncodeChar,
    List.utf8Encode_singleton, ByteArray.ext_iff, ← Array.toList_inj, eq_comm]
  simp

namespace CodePoint

theorem encodingWidth_of_charAt? {lead : UInt8} (h : charAt? bytes offset = some ch)
    (hlead : bytes[offset]? = some lead) : Utf8.encodingWidth lead = ch.utf8Size := by
  have hprefix := Utf8.charAt?_eq_some_iff_prefix.1 h
  obtain ⟨first, tail, hencoding, hwidth, -⟩ := (Utf8.encoding_utf8EncodeChar ch).exists_cons
  obtain ⟨rest, hrest⟩ := hprefix
  rw [Utf8.getElem?_eq_toList, ← Nat.add_zero offset, ← List.getElem?_drop, ← hrest,
    hencoding] at hlead
  obtain rfl : first = lead := Option.some.inj hlead
  rw [← hwidth, ← List.length_cons, ← hencoding, String.length_utf8EncodeChar]

/-- Bytes that are text begin with the encoding of their first code point. -/
theorem charAt?_of_slice? {encoding : ByteArray} {text : String}
    (hslice : (Span.ofLength offset width).slice? bytes = some encoding)
    (htext : String.fromUTF8? encoding = some text) (hhead : text.toList.head? = some ch) :
    charAt? bytes offset = some ch := by
  obtain ⟨rest, hrest⟩ := List.head?_eq_some_iff.1 hhead
  unfold Span.slice? at hslice
  split at hslice
  · rename_i hfits
    have hbytes : bytes.extract offset (offset + width) = (ch :: rest).utf8Encode := by
      rw [← hrest, String.utf8Encode_toList]
      exact (Option.some.inj hslice).trans (Utf8.fromUTF8?_eq_some_iff.1 htext)
    exact (Utf8.Spells.cons_iff.1 ⟨hfits.1, hfits.2, hbytes⟩).1
  · cases hslice

/-- Where a code point begins, the bytes that its first one announces are its encoding. -/
theorem slice?_of_charAt? (h : charAt? bytes offset = some ch) :
    (Span.ofLength offset ch.utf8Size).slice? bytes = some [ch].utf8Encode :=
  (Utf8.Spells.singleton_iff.2 ⟨h, rfl⟩).slice?_eq

/-- Looking at no more than the announced bytes makes no difference. -/
theorem decodeAt_eq (bytes : ByteArray) (offset : Nat) :
    decodeAt bytes offset =
      (CodePoint.readAt bytes offset, (CodePoint.readAt bytes offset).utf8Size) := by
  unfold decodeAt
  cases hlead : bytes[offset]? with
  | none =>
    have hbeyond := Nat.le_of_not_lt ((getElem?_eq_none_iff bytes offset).1 hlead)
    have hnone := Utf8.charAt?_eq_none_of_size_le hbeyond
    rw [readAt_of_none hnone]
    rfl
  | some lead =>
    obtain ⟨hlt, rfl⟩ := getElem?_eq_some_iff.1 hlead
    simp only
    by_cases hascii : bytes[offset] < 0x80
    · rw [if_pos hascii, readAt_of_some (Utf8.charAt?_of_ascii hlt hascii), utf8Size_scalar,
        Utf8.utf8Size_ofUInt8 hascii]
    · rw [if_neg hascii]
      cases hchar : charAt? bytes offset with
      | some ch =>
        simp only [encodingWidth_of_charAt? hchar hlead, slice?_of_charAt? hchar, Option.bind_some,
          Utf8.fromUTF8?_utf8Encode, String.toList_ofList, List.head?_cons, readAt_of_some hchar,
          if_pos ch.utf8Size_pos, utf8Size_scalar]
      | none =>
        rw [readAt_of_none hchar]
        split
        · rfl
        · rename_i encoding hslice
          split
          · rename_i ch hfound
            obtain ⟨text, htext, hhead⟩ := Option.bind_eq_some_iff.1 hfound
            rw [charAt?_of_slice? hslice htext hhead] at hchar
            cases hchar
          · rfl

theorem decodeAt_of_some (h : charAt? bytes offset = some ch) :
    decodeAt bytes offset = (.scalar ch, ch.utf8Size) := by
  rw [decodeAt_eq, readAt_of_some h, utf8Size_scalar]

theorem decodeAt_of_none (h : charAt? bytes offset = none) :
    decodeAt bytes offset = (.endOfInput, 0) := by
  rw [decodeAt_eq, readAt_of_none h, utf8Size_endOfInput]

theorem decodeAt_eq_scalar_iff :
    decodeAt bytes offset = (.scalar ch, width) ↔
      charAt? bytes offset = some ch ∧ width = ch.utf8Size := by
  cases hchar : charAt? bytes offset with
  | none => simp [decodeAt_of_none hchar]
  | some d =>
    rw [decodeAt_of_some hchar]
    constructor
    · intro h
      cases h
      exact ⟨rfl, rfl⟩
    · rintro ⟨h, rfl⟩
      cases h
      rfl

/-! ## Visits -/

/-- The code points that repeated decoding visits from the offset on, and the offset where it
stops. -/
def visit (bytes : ByteArray) (offset : Nat) : List Char × Nat :=
  match h : decodeAt bytes offset with
  | (.scalar c, width) =>
    have hchar := decodeAt_eq_scalar_iff.1 h
    have := Utf8.lt_size_of_charAt? hchar.1
    have := c.utf8Size_pos
    let (text, stop) := visit bytes (offset + width)
    (c :: text, stop)
  | _ => ([], offset)
termination_by bytes.size - offset

theorem visit_eq (bytes : ByteArray) (offset : Nat) :
    visit bytes offset = (Utf8.textFrom bytes offset, Utf8.validEnd bytes offset) := by
  fun_induction visit bytes offset with
  | case1 offset c width h hchar hlt hpos text stop hrest ih =>
    obtain ⟨hfound, rfl⟩ := hchar
    have hvalid := (Utf8.Spells.singleton_iff.2 ⟨hfound, rfl⟩).validEnd_eq
    rw [Utf8.textFrom_of_some hfound, ← hvalid]
    cases hrest.symm.trans ih
    rfl
  | case2 offset h =>
    have hnone : charAt? bytes offset = none := by
      cases hchar : charAt? bytes offset with
      | none => rfl
      | some c => exact absurd (decodeAt_of_some hchar) (h c _)
    rw [Utf8.textFrom_of_none hnone, Utf8.validEnd, Utf8.validUpTo]
    split
    · rename_i hfound
      rw [hnone] at hfound
      cases hfound
    · rfl

/-- Decoding finds a code point where the bytes begin with its encoding, with the length of that as
the width, and otherwise the end of the input without a width: behind the last byte, at a
continuation byte, an overlong form, a surrogate, what is beyond the largest code point, and where
an encoding breaks off. Repeated from the start of a buffer, it visits the text of the longest part
of the buffer that is text, and stops where that ends. -/
theorem decodeAt_inverts (bytes : ByteArray) :
    (∀ offset,
      (∀ c width, decodeAt bytes offset = (.scalar c, width) ↔
        String.utf8EncodeChar c <+: bytes.data.toList.drop offset ∧
          width = (String.utf8EncodeChar c).length) ∧
      (∀ c, 1 ≤ (String.utf8EncodeChar c).length ∧ (String.utf8EncodeChar c).length ≤ 4) ∧
      ((¬ ∃ c, String.utf8EncodeChar c <+: bytes.data.toList.drop offset) →
        decodeAt bytes offset = (.endOfInput, 0)) ∧
      (decodeAt bytes offset = (.endOfInput, 0) ↔
        Utf8.Malformed (bytes.data.toList.drop offset))) ∧
    ∃ text stop, visit bytes 0 = (text, stop) ∧ bytes.extract 0 stop = text.utf8Encode ∧
      IsGreatest {n | IsBoundary bytes n} stop := by
  have hscalar : ∀ offset c width, decodeAt bytes offset = (.scalar c, width) ↔
      String.utf8EncodeChar c <+: bytes.data.toList.drop offset ∧
        width = (String.utf8EncodeChar c).length := by
    intro offset c width
    rw [decodeAt_eq_scalar_iff, Utf8.charAt?_eq_some_iff_prefix, String.length_utf8EncodeChar]
  have hend : ∀ offset, decodeAt bytes offset = (.endOfInput, 0) ↔
      ¬ ∃ c, String.utf8EncodeChar c <+: bytes.data.toList.drop offset := by
    intro offset
    simp only [← Utf8.charAt?_eq_some_iff_prefix]
    cases hchar : charAt? bytes offset with
    | none => simp [decodeAt_of_none hchar]
    | some c => simp [decodeAt_of_some hchar]
  have hspells := Utf8.spells_validEnd (Nat.zero_le bytes.size)
  refine ⟨fun offset => ⟨hscalar offset, ?_, (hend offset).2, ?_⟩, _, _, visit_eq bytes 0,
    hspells.extract_eq, Utf8.isGreatest_validEnd bytes⟩
  · intro c
    rw [String.length_utf8EncodeChar]
    exact ⟨c.utf8Size_pos, c.utf8Size_le_four⟩
  · rw [hend, Utf8.malformed_iff]

end CodePoint

end Lexis
