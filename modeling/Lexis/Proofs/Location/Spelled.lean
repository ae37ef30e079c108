import Lexis.Proofs.Location.Place

/-!
# Line terminators in text

Line terminators are sought among bytes where places are computed, and among code points where
tokens are scanned. In a text they are the same (`hasTerminator_of_spells`): none begins inside a
code point.
-/

namespace Lexis

open CharClass

/-- Whether a whole line terminator lies between the offsets. -/
def HasTerminator (bytes : ByteArray) (start stop : Nat) : Prop :=
  ∃ t ∈ terminators bytes, start ≤ t.start ∧ t.stop ≤ stop

instance (bytes : ByteArray) (start stop : Nat) : Decidable (HasTerminator bytes start stop) :=
  inferInstanceAs (Decidable (∃ t ∈ terminators bytes, _))

variable {bytes : ByteArray} {start stop offset : Nat} {ch : Char} {text : List Char}

theorem hasTerminator_iff : HasTerminator bytes start stop ↔
    ∃ offset, start ≤ offset ∧ terminatorWidthAt bytes offset ≠ 0 ∧
      offset + terminatorWidthAt bytes offset ≤ stop := by
  constructor
  · rintro ⟨t, ht, hstart, hstop⟩
    obtain ⟨hwidth, hend⟩ := mem_terminators.1 ht
    exact ⟨t.start, hstart, hwidth, hend ▸ hstop⟩
  · rintro ⟨offset, hstart, hwidth, hstop⟩
    exact ⟨⟨offset, _⟩, mem_terminators.2 ⟨hwidth, rfl⟩, hstart, hstop⟩

namespace Utf8

theorem getElem?_add_of_charAt? (h : charAt? bytes offset = some ch) {i : Nat}
    (hi : i < ch.utf8Size) :
    bytes[offset + i]? = (String.utf8EncodeChar ch)[i]? := by
  rw [← take_drop_of_charAt? h, List.getElem?_take_of_lt hi, List.getElem?_drop,
    getElem?_eq_toList]

theorem charAt?_of_getElem?
    (h : ∀ i, i < ch.utf8Size → bytes[offset + i]? = (String.utf8EncodeChar ch)[i]?) :
    charAt? bytes offset = some ch := by
  have hbytes : (bytes.data.toList.drop offset).take ch.utf8Size = String.utf8EncodeChar ch := by
    apply List.ext_getElem?
    intro i
    by_cases hi : i < ch.utf8Size
    · rw [List.getElem?_take_of_lt hi, List.getElem?_drop, ← getElem?_eq_toList, h i hi]
    · have hlength : (String.utf8EncodeChar ch).length ≤ i := by
        rw [String.length_utf8EncodeChar]
        omega
      rw [List.getElem?_eq_none hlength, List.getElem?_take_eq_none (by omega)]
  rw [charAt?_eq_some_iff]
  apply ByteArray.ext
  apply Array.ext'
  simpa [List.utf8Encode_singleton] using hbytes

/-- The bytes behind the first one of a code point. -/
theorem bounds_of_mem_tail {b : UInt8} (hb : b ∈ (String.utf8EncodeChar ch).tail) :
    0x80 ≤ b ∧ b < 0xC0 := by
  rw [UInt8.le_iff_toNat_le, UInt8.lt_iff_toNat_lt]
  unfold String.utf8EncodeChar at hb
  simp only at hb
  split at hb
  · simp at hb
  · split at hb
    · simp only [List.tail_cons, List.mem_cons, List.not_mem_nil, or_false] at hb
      subst hb
      simp
      omega
    · split at hb
      · simp only [List.tail_cons, List.mem_cons, List.not_mem_nil, or_false] at hb
        rcases hb with rfl | rfl <;> simp <;> omega
      · simp only [List.tail_cons, List.mem_cons, List.not_mem_nil, or_false] at hb
        rcases hb with rfl | rfl | rfl <;> simp <;> omega

end Utf8

/-- No line terminator begins inside a code point. -/
theorem terminatorWidthAt_inside (h : Utf8.charAt? bytes start = some ch) (hlt : start < offset)
    (hinside : offset < start + ch.utf8Size) : terminatorWidthAt bytes offset = 0 := by
  obtain ⟨i, rfl⟩ := Nat.exists_eq_add_of_lt hlt
  have hbyte := Utf8.getElem?_add_of_charAt? h (i := i + 1) (by omega)
  rw [← List.getElem?_tail, ← Nat.add_assoc] at hbyte
  have hinner : ∀ b, bytes[start + i + 1]? = some b → 0x80 ≤ b ∧ b < 0xC0 := by
    intro b hb
    rw [hbyte] at hb
    exact Utf8.bounds_of_mem_tail (List.mem_of_getElem? hb)
  rcases terminatorWidthAt_cases bytes (start + i + 1) with h0 | ⟨-, hb | hb⟩ | ⟨-, hb, -⟩
  · exact h0
  · exact absurd (hinner _ hb).1 (by decide)
  · exact absurd (hinner _ hb).1 (by decide)
  · exact absurd (hinner _ hb).2 (by decide)

theorem terminatorWidthAt_of_isLineTerminator (h : Utf8.charAt? bytes offset = some ch)
    (hch : isLineTerminator ch = true) : terminatorWidthAt bytes offset = ch.utf8Size := by
  have hbyte : ∀ i, i < ch.utf8Size → bytes[offset + i]? = (String.utf8EncodeChar ch)[i]? :=
    fun i hi => Utf8.getElem?_add_of_charAt? h hi
  simp only [isLineTerminator, Bool.or_eq_true, beq_iff_eq] at hch
  obtain ((rfl | rfl) | rfl) | rfl := hch
  · exact terminatorWidthAt_of_lineBreak (hbyte 0 (by decide)) rfl
  · exact terminatorWidthAt_of_lineBreak (hbyte 0 (by decide)) rfl
  · refine terminatorWidthAt_of_separator ?_
    have h0 : bytes[offset]? = _ := hbyte 0 (by decide)
    rw [isSeparatorAt, h0, hbyte 1 (by decide), hbyte 2 (by decide)]
    decide
  · refine terminatorWidthAt_of_separator ?_
    have h0 : bytes[offset]? = _ := hbyte 0 (by decide)
    rw [isSeparatorAt, h0, hbyte 1 (by decide), hbyte 2 (by decide)]
    decide

theorem isLineTerminator_of_terminatorWidthAt (h : Utf8.charAt? bytes offset = some ch)
    (hwidth : terminatorWidthAt bytes offset ≠ 0) : isLineTerminator ch = true := by
  have hcases : ∃ d, isLineTerminator d = true ∧ Utf8.charAt? bytes offset = some d := by
    rcases terminatorWidthAt_cases bytes offset with h0 | ⟨-, hb | hb⟩ | ⟨-, h0, h1, h2 | h2⟩
    · exact absurd h0 hwidth
    · refine ⟨'\n', rfl, Utf8.charAt?_of_getElem? fun i hi => ?_⟩
      obtain rfl : i = 0 := Nat.lt_one_iff.1 hi
      exact hb
    · refine ⟨'\r', rfl, Utf8.charAt?_of_getElem? fun i hi => ?_⟩
      obtain rfl : i = 0 := Nat.lt_one_iff.1 hi
      exact hb
    · refine ⟨'\u2028', rfl, Utf8.charAt?_of_getElem? fun i hi => ?_⟩
      have hi : i < 3 := hi
      rcases i with _ | _ | _ | i
      · exact h0
      · exact h1
      · exact h2
      · omega
    · refine ⟨'\u2029', rfl, Utf8.charAt?_of_getElem? fun i hi => ?_⟩
      have hi : i < 3 := hi
      rcases i with _ | _ | _ | i
      · exact h0
      · exact h1
      · exact h2
      · omega
  obtain ⟨d, hd, hfound⟩ := hcases
  cases h.symm.trans hfound
  exact hd

/-- Among the bytes of a text, the line terminators are those of its code points. -/
theorem hasTerminator_of_spells (h : Utf8.Spells bytes start stop text) :
    HasTerminator bytes start stop ↔ text.any isLineTerminator = true := by
  rw [hasTerminator_iff]
  induction text generalizing start with
  | nil =>
    have hstop : stop = start := h.stop_eq
    simp only [List.any_nil, Bool.false_eq_true, iff_false]
    rintro ⟨offset, hstart, hwidth, hle⟩
    omega
  | cons ch text ih =>
    obtain ⟨hch, hrest⟩ := Utf8.Spells.cons_iff.1 h
    have hle := hrest.start_le
    rw [List.any_cons, Bool.or_eq_true, ← ih hrest]
    constructor
    · rintro ⟨offset, hstart, hwidth, hstop⟩
      obtain rfl | hlt := Nat.eq_or_lt_of_le hstart
      · exact .inl (isLineTerminator_of_terminatorWidthAt hch hwidth)
      · have hbehind : start + ch.utf8Size ≤ offset := by
          refine Nat.le_of_not_lt fun hinside => hwidth ?_
          exact terminatorWidthAt_inside hch hlt hinside
        exact .inr ⟨offset, hbehind, hwidth, hstop⟩
    · rintro (hterm | ⟨offset, hstart, hwidth, hstop⟩)
      · have hwidth := terminatorWidthAt_of_isLineTerminator hch hterm
        have hpos := ch.utf8Size_pos
        exact ⟨start, Nat.le_refl _, by omega, by omega⟩
      · exact ⟨offset, by omega, hwidth, hstop⟩

end Lexis
