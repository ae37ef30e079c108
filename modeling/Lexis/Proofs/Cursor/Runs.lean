import Lexis.Proofs.Cursor.Plain

/-!
# Runs skipped at once

Over ASCII bytes every byte is a step, so that an ASCII run may be crossed byte by byte. A line
terminator begins with one of three bytes, so that no step between two of these ends a line.
-/

namespace Lexis

open CharClass

/-! ## ASCII runs -/

theorem ofUInt8_eq_lineFeed_iff (b : UInt8) : Char.ofUInt8 b = '\n' ↔ b = 0x0A := by
  rw [← Char.val_inj, ← UInt32.toNat_inj, ← UInt8.toNat_inj]
  show b.toUInt32.toNat = 10 ↔ b.toNat = 10
  rw [UInt8.toNat_toUInt32]

theorem isAscii_ofUInt8 {b : UInt8} (h : b < 0x80) : isAscii (Char.ofUInt8 b) = true := by
  have hlt : b.toUInt32.toNat < 128 := by
    rw [UInt8.toNat_toUInt32]
    exact h
  exact decide_eq_true hlt

/-- An ASCII code point is decoded from an ASCII byte. -/
theorem eq_ofUInt8_of_isAscii {bytes : ByteArray} {offset : Nat} {ch : Char}
    (h : Utf8.charAt? bytes offset = some ch) (hascii : isAscii ch = true) :
    ∃ hlt : offset < bytes.size, bytes[offset] < 0x80 ∧ ch = Char.ofUInt8 bytes[offset] := by
  have hlt := Utf8.lt_size_of_charAt? h
  have hval : ch.val.toNat < 0x80 := of_decide_eq_true hascii
  have hsize := Utf8.utf8Size_of_isAscii hascii
  have hbyte : bytes[offset] = ch.val.toUInt8 := by
    have htake := Utf8.take_drop_of_charAt? h
    rw [hsize, String.utf8EncodeChar_eq_singleton hsize,
      List.drop_eq_getElem_cons (by simpa using hlt)] at htake
    rw [ByteArray.getElem_eq_getElem_data]
    simpa using htake
  have hascii' : bytes[offset] < 0x80 := by
    rw [hbyte, UInt8.lt_iff_toNat_lt, UInt32.toNat_toUInt8]
    exact Nat.lt_of_le_of_lt (Nat.mod_le _ _) hval
  refine ⟨hlt, hascii', ?_⟩
  rw [Utf8.charAt?_of_ascii hlt hascii'] at h
  exact (Option.some.inj h).symm

namespace Cursor

theorem countByte_succ (bytes : ByteArray) (b : UInt8) {start stop : Nat} (h : start ≤ stop) :
    countByte bytes b start (stop + 1) =
      countByte bytes b start stop + if bytes[stop]? = some b then 1 else 0 := by
  rw [countByte, countByte, show stop + 1 - start = stop - start + 1 by omega,
    List.range'_1_concat, List.countP_append, show start + (stop - start) = stop by omega]
  simp [List.countP_cons]

theorem countByte_self (bytes : ByteArray) (b : UInt8) (start : Nat) :
    countByte bytes b start start = 0 := by
  simp [countByte]

theorem not_of_asciiRunStop {p : Char → Bool} {bytes : ByteArray} {offset : Nat}
    (hlt : asciiRunStop p bytes offset < bytes.size)
    (hascii : bytes[asciiRunStop p bytes offset] < 0x80) :
    p (Char.ofUInt8 bytes[asciiRunStop p bytes offset]) = false := by
  fun_induction asciiRunStop p bytes offset with
  | case1 offset hsize hp ih => exact ih hlt hascii
  | case2 offset hsize hp => simpa [hascii] using hp
  | case3 offset hsize => exact absurd hlt hsize

end Cursor

namespace PlainCursor

/-- Every ASCII byte is a step of its own. -/
theorem advanceBy_of_ascii {c : PlainCursor} (hcur : c.current = CodePoint.readAt c.bytes c.index)
    (n : Nat) (ascii : ∀ i, c.index ≤ i → i ≤ c.index + n → ∃ h : i < c.bytes.size,
      c.bytes[i] < 0x80) :
    c.advanceBy n = { c with
      current := CodePoint.readAt c.bytes (c.index + n)
      index := c.index + n
      newlines := c.newlines + Cursor.countByte c.bytes 0x0A (c.index + 1) (c.index + n + 1) } := by
  induction n with
  | zero => simp only [advanceBy, Nat.add_zero, Cursor.countByte_self, ← hcur]
  | succ n ih =>
    obtain ⟨hsize, hbyte⟩ := ascii (c.index + n) (by omega) (by omega)
    obtain ⟨hsize', hbyte'⟩ := ascii (c.index + n + 1) (by omega) (by omega)
    have hread := CodePoint.readAt_of_some (Utf8.charAt?_of_ascii hsize hbyte)
    have hread' := CodePoint.readAt_of_some (Utf8.charAt?_of_ascii hsize' hbyte')
    have hfeed : (CodePoint.readAt c.bytes (c.index + n + 1)).is '\n' = true ↔
        c.bytes[c.index + n + 1]? = some 0x0A := by
      rw [hread', getElem?_pos c.bytes _ hsize']
      simp only [CodePoint.is, beq_iff_eq, CodePoint.scalar.injEq, Option.some.injEq]
      exact ofUInt8_eq_lineFeed_iff _
    rw [advanceBy_succ, ih fun i hle hi => ascii i hle (by omega)]
    simp only [advance, hread, reduceCtorEq, if_false, stepTo, nextOffset, CodePoint.utf8Size_scalar,
      Utf8.utf8Size_ofUInt8 hbyte, ← Nat.add_assoc, hfeed]
    rw [Cursor.countByte_succ _ _ (show c.index + 1 ≤ c.index + n + 1 by omega)]
    split <;> rfl

theorem stepWhile_at_asciiRunStop (p : Char → Bool) (bytes : ByteArray) (offset : Nat)
    {c : PlainCursor}
    (hcur : c.current = CodePoint.readAt bytes (Cursor.asciiRunStop p bytes offset)) :
    c.stepWhile (fun ch => isAscii ch && p ch) = c := by
  apply stepWhile_of_forall_ne
  intro ch hch
  cases hc : Utf8.charAt? bytes (Cursor.asciiRunStop p bytes offset) with
  | none => simp [hch, CodePoint.readAt_of_none hc] at hcur
  | some d =>
    obtain rfl : ch = d := by simpa [hch, CodePoint.readAt_of_some hc] using hcur
    cases hascii : isAscii ch with
    | false => rfl
    | true =>
      obtain ⟨hlt, hbyte, hch⟩ := eq_ofUInt8_of_isAscii hc hascii
      rw [hch, Cursor.not_of_asciiRunStop hlt hbyte, Bool.and_false]

theorem le_asciiRunStop (p : Char → Bool) (bytes : ByteArray) (offset : Nat) :
    offset ≤ Cursor.asciiRunStop p bytes offset := by
  fun_induction Cursor.asciiRunStop p bytes offset <;> omega

/-- Single steps that look for ASCII end where the ASCII run ends. -/
theorem stepWhile_ascii {c : PlainCursor} (hcur : c.current = CodePoint.readAt c.bytes c.index)
    (p : Char → Bool) :
    c.stepWhile (fun ch => isAscii ch && p ch) =
      c.advanceBy (Cursor.asciiRunStop p c.bytes c.index - c.index) := by
  have hrun : ∀ k, k < Cursor.asciiRunStop p c.bytes c.index - c.index →
      ∃ h : c.index + k < c.bytes.size, c.bytes[c.index + k] < 0x80 ∧
        p (Char.ofUInt8 c.bytes[c.index + k]) = true :=
    fun k hk => Cursor.ascii_of_lt_asciiRunStop (Nat.le_add_right c.index k) (by omega)
  have hsteps : ∀ k, k < Cursor.asciiRunStop p c.bytes c.index - c.index →
      (c.advanceBy k).bytes = c.bytes ∧ (c.advanceBy k).index = c.index + k ∧
        (c.advanceBy k).current = CodePoint.readAt c.bytes (c.index + k) := by
    intro k hk
    rw [advanceBy_of_ascii hcur k fun i hle hi => ?_]
    · exact ⟨rfl, rfl, rfl⟩
    · obtain ⟨hsize, hbyte, _⟩ := hrun (i - c.index) (by omega)
      rw [show c.index + (i - c.index) = i by omega] at hsize
      simp only [show c.index + (i - c.index) = i by omega] at hbyte
      exact ⟨hsize, hbyte⟩
  -- The steps along the run are all taken, and the one behind it is refused.
  rw [← stepWhile_advanceBy (Cursor.asciiRunStop p c.bytes c.index - c.index) fun k hk => ?_]
  · refine stepWhile_at_asciiRunStop p c.bytes c.index ?_
    have hle := le_asciiRunStop p c.bytes c.index
    cases hn : Cursor.asciiRunStop p c.bytes c.index - c.index with
    | zero =>
      rw [show Cursor.asciiRunStop p c.bytes c.index = c.index by omega]
      exact hcur
    | succ k =>
      obtain ⟨hsize, hbyte, _⟩ := hrun k (by omega)
      obtain ⟨hbytes, hindex, hread⟩ := hsteps k (by omega)
      rw [CodePoint.readAt_of_some (Utf8.charAt?_of_ascii hsize hbyte)] at hread
      rw [advanceBy_succ, advance, if_neg (by simp [hread])]
      simp only [stepTo, nextOffset, hbytes, hindex, hread, CodePoint.utf8Size_scalar,
        Utf8.utf8Size_ofUInt8 hbyte]
      rw [show c.index + k + 1 = Cursor.asciiRunStop p c.bytes c.index by omega]
  · obtain ⟨hsize, hbyte, hp⟩ := hrun k hk
    refine ⟨Char.ofUInt8 c.bytes[c.index + k], ?_, by rw [isAscii_ofUInt8 hbyte, hp]; rfl⟩
    rw [(hsteps k hk).2.2, CodePoint.readAt_of_some (Utf8.charAt?_of_ascii hsize hbyte)]

end PlainCursor

namespace Cursor

theorem plain_skipAscii (c : Cursor) (stop : Nat) {ch : Char} (hcur : c.current = .scalar ch)
    (hlt : c.index < stop)
    (ascii : ∀ i, c.index ≤ i → i < stop → ∃ h : i < c.bytes.size, c.bytes[i] < 0x80) :
    (c.skipAscii stop hcur hlt ascii).plain = c.plain.advanceBy (stop - 1 - c.index) := by
  have hread : c.current = CodePoint.readAt c.bytes c.index := by
    rw [CodePoint.readAt_of_some (charAt?_index_of_scalar hcur), hcur]
  obtain ⟨hsize, hbyte⟩ := ascii (stop - 1) (by omega) (by omega)
  rw [PlainCursor.advanceBy_of_ascii (c := c.plain) hread (stop - 1 - c.index)
    fun i hle hi => ascii i hle (by simp only [plain] at hle hi; omega)]
  have hindex : c.index + (stop - 1 - c.index) = stop - 1 := by omega
  have hstop : stop - 1 + 1 = stop := by omega
  simp only [plain, skipAscii, hindex, hstop,
    CodePoint.readAt_of_some (Utf8.charAt?_of_ascii hsize hbyte)]

theorem plain_skipAsciiWhile (p : Char → Bool) (c : Cursor) :
    (c.skipAsciiWhile p).plain = c.plain.stepWhile fun ch => isAscii ch && p ch := by
  unfold skipAsciiWhile
  split
  · rename_i ch hcur
    have hread : c.plain.current = CodePoint.readAt c.plain.bytes c.plain.index :=
      hcur.trans (CodePoint.readAt_of_some (charAt?_index_of_scalar hcur)).symm
    rw [PlainCursor.stepWhile_ascii hread]
    show Cursor.plain _ = c.plain.advanceBy (asciiRunStop p c.bytes c.index - c.index)
    split
    · rename_i hlt
      rw [plain_advance, plain_skipAscii, ← PlainCursor.advanceBy_succ]
      congr 1
      omega
    · rename_i hge
      rw [show asciiRunStop p c.bytes c.index - c.index = 0 by omega]
      rfl
  · rename_i hnot
    exact (PlainCursor.stepWhile_of_forall_ne fun ch hch => absurd hch (hnot ch)).symm

/-! ## Lines -/

theorem not_of_terminatorByteFrom {bytes : ByteArray} {offset i : Nat} (hle : offset ≤ i)
    (hlt : i < terminatorByteFrom bytes offset) :
    bytes[i]? ≠ some 0x0A ∧ bytes[i]? ≠ some 0x0D ∧ bytes[i]? ≠ some 0xE2 := by
  fun_induction terminatorByteFrom bytes offset with
  | case1 => omega
  | case2 offset hsize hbyte ih =>
    by_cases heq : offset = i
    · subst heq
      simpa [hsize, and_assoc] using hbyte
    · exact ih (by omega) hlt
  | case3 offset hsize =>
    rw [getElem?_neg bytes i (by omega)]
    simp

/-- No line terminator begins before the first byte that can begin one. -/
theorem not_isLineTerminator_of_lt {bytes : ByteArray} {start offset : Nat} {ch : Char}
    (hle : start ≤ offset) (hlt : offset < terminatorByteFrom bytes start)
    (h : Utf8.charAt? bytes offset = some ch) : isLineTerminator ch = false := by
  cases hterm : isLineTerminator ch with
  | false => rfl
  | true =>
    have hfirst : bytes[offset]? = (String.utf8EncodeChar ch)[0]? := by
      rw [← Utf8.take_drop_of_charAt? h, List.getElem?_take_of_lt ch.utf8Size_pos,
        List.getElem?_drop, Nat.add_zero, Utf8.getElem?_eq_toList]
    obtain ⟨hfeed, hreturn, hseparator⟩ := not_of_terminatorByteFrom hle hlt
    rw [hfirst] at hfeed hreturn hseparator
    rcases Utf8.firstByte_of_isLineTerminator hterm with hbyte | hbyte | hbyte
    · exact absurd hbyte hfeed
    · exact absurd hbyte hreturn
    · exact absurd hbyte hseparator

end Cursor

namespace PlainCursor

theorem advance_stepTo {c : PlainCursor} {offset : Nat} {ch : Char}
    (h : Utf8.charAt? c.bytes offset = some ch) (hne : ch ≠ '\n') :
    (c.stepTo offset).advance = c.stepTo (offset + ch.utf8Size) := by
  have hread := CodePoint.readAt_of_some h
  simp [advance, stepTo, nextOffset, hread, CodePoint.is, hne]

/-- Text without line terminators may be left out before steps to the end of the line. -/
theorem stepWhile_stepTo_validUpTo (c : PlainCursor) {start offset : Nat} (h : start ≤ offset) :
    (c.stepTo (Utf8.validUpTo c.bytes (Cursor.terminatorByteFrom c.bytes start) offset)).stepWhile
        (!isLineTerminator ·) =
      (c.stepTo offset).stepWhile (!isLineTerminator ·) := by
  fun_induction Utf8.validUpTo c.bytes (Cursor.terminatorByteFrom c.bytes start) offset with
  | case1 offset ch hch hlt hpos hle ih =>
    have hterm := Cursor.not_isLineTerminator_of_lt h (by omega) hch
    have hne : ch ≠ '\n' := by
      rintro rfl
      cases hterm
    have hcur : (c.stepTo offset).current = .scalar ch := CodePoint.readAt_of_some hch
    rw [ih (by omega), stepWhile_of_scalar hcur, hterm, advance_stepTo hch hne]
    rfl
  | case2 => rfl
  | case3 => rfl

end PlainCursor

namespace Cursor

theorem plain_skipToLineEnd (c : Cursor) :
    c.skipToLineEnd.plain = c.plain.stepWhile (!isLineTerminator ·) := by
  fun_induction skipToLineEnd c with
  | case1 c ch h hlt hterm =>
    rw [PlainCursor.stepWhile_of_scalar (c := c.plain) h, hterm]
    rfl
  | case2 c ch h hlt hterm ih =>
    have hadvance : c.plain.advance = c.plain.stepTo c.nextOffset := by
      rw [PlainCursor.advance, if_neg (by simp [plain, h]), plain_nextOffset]
    rw [ih, PlainCursor.stepWhile_of_scalar (c := c.plain) h, hadvance,
      ← PlainCursor.stepWhile_stepTo_validUpTo c.plain (Nat.le_refl c.nextOffset)]
    simp only [hterm]
    rfl
  | case3 c hnot =>
    exact (PlainCursor.stepWhile_of_forall_ne fun ch hch => absurd hch (hnot ch)).symm

end Cursor

end Lexis
