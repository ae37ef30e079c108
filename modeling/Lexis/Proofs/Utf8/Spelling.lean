import Mathlib.Order.Bounds.Defs
import Lexis.CharClass
import Lexis.Span
import Lexis.Utf8

/-!
# Spelled text

`Spells bytes start stop text` says that the bytes between two offsets are the encoding of a text.
What decoding finds from an offset on is spelled there (`spells_validEnd`), and where it stops is the
last offset before which the bytes are text (`isGreatest_validEnd`).
-/

namespace Lexis.Utf8

open CharClass

theorem size_utf8Encode (text : List Char) : text.utf8Encode.size = size text := by
  induction text with
  | nil => rfl
  | cons c text ih =>
    rw [List.utf8Encode_cons, ByteArray.size_append, ih, List.utf8Encode_singleton,
      List.size_toByteArray, String.length_utf8EncodeChar, size_cons]

theorem utf8Size_of_isAscii {c : Char} (h : isAscii c = true) : c.utf8Size = 1 := by
  rw [Char.utf8Size_eq_one_iff, UInt32.le_iff_toNat_le]
  exact Nat.le_of_lt_succ (of_decide_eq_true h)

theorem size_eq_length {text : List Char} (h : ∀ c ∈ text, isAscii c = true) :
    size text = text.length := by
  induction text with
  | nil => rfl
  | cons c text ih =>
    rw [List.forall_mem_cons] at h
    rw [size_cons, utf8Size_of_isAscii h.1, ih h.2, List.length_cons, Nat.add_comm]

theorem charAt?_eq_some_iff {bytes : ByteArray} {offset : Nat} {c : Char} :
    charAt? bytes offset = some c ↔
      bytes.extract offset (offset + c.utf8Size) = [c].utf8Encode := by
  rw [charAt?, ByteArray.utf8DecodeChar?_eq_utf8DecodeChar?_extract, List.utf8Encode_singleton]
  constructor
  · intro h
    have hsize := ByteArray.le_size_of_utf8DecodeChar?_eq_some h
    have hpos := c.utf8Size_pos
    rw [String.toByteArray_utf8EncodeChar_of_utf8DecodeChar?_eq_some h, ByteArray.extract_extract]
    rw [ByteArray.size_extract] at hsize
    congr 1
    omega
  · intro h
    have hlen : (bytes.extract offset (offset + c.utf8Size)).size = c.utf8Size := by
      rw [h, List.size_toByteArray, String.length_utf8EncodeChar]
    have hpos := c.utf8Size_pos
    rw [ByteArray.size_extract] at hlen
    rw [ByteArray.extract_eq_extract_append_extract (offset + c.utf8Size) (by omega) (by omega), h]
    exact ByteArray.utf8DecodeChar?_utf8EncodeChar_append

theorem fromUTF8?_utf8Encode (text : List Char) :
    String.fromUTF8? text.utf8Encode = some (String.ofList text) :=
  dif_pos ⟨text, rfl⟩

/-- The bytes from `start` up to `stop` are the encoding of the text. -/
structure Spells (bytes : ByteArray) (start stop : Nat) (text : List Char) : Prop where
  start_le : start ≤ stop
  stop_le : stop ≤ bytes.size
  extract_eq : bytes.extract start stop = text.utf8Encode

namespace Spells

variable {bytes : ByteArray} {start middle stop : Nat} {c : Char} {text more : List Char}

theorem stop_eq (h : Spells bytes start stop text) : stop = start + size text := by
  have hsize := congrArg ByteArray.size h.extract_eq
  have hstart := h.start_le
  have hstop := h.stop_le
  rw [ByteArray.size_extract, size_utf8Encode] at hsize
  omega

theorem refl (h : start ≤ bytes.size) : Spells bytes start start [] :=
  ⟨Nat.le_refl _, h, by rw [ByteArray.extract_same]; rfl⟩

theorem append (h : Spells bytes start middle text) (h' : Spells bytes middle stop more) :
    Spells bytes start stop (text ++ more) := by
  refine ⟨Nat.le_trans h.start_le h'.start_le, h'.stop_le, ?_⟩
  rw [List.utf8Encode_append, ← h.extract_eq, ← h'.extract_eq,
    ← ByteArray.extract_eq_extract_append_extract middle h.start_le h'.start_le]

theorem singleton_iff :
    Spells bytes start stop [c] ↔ charAt? bytes start = some c ∧ stop = start + c.utf8Size := by
  constructor
  · intro h
    have hstop : stop = start + c.utf8Size := by simpa using h.stop_eq
    exact ⟨charAt?_eq_some_iff.2 (hstop ▸ h.extract_eq), hstop⟩
  · rintro ⟨hc, rfl⟩
    exact ⟨Nat.le_add_right _ _, le_size_of_charAt? hc, charAt?_eq_some_iff.1 hc⟩

theorem cons_iff :
    Spells bytes start stop (c :: text) ↔
      charAt? bytes start = some c ∧ Spells bytes (start + c.utf8Size) stop text := by
  constructor
  · intro h
    have hstop := h.stop_eq
    have hle := h.stop_le
    rw [size_cons] at hstop
    have hsplit := h.extract_eq
    rw [List.utf8Encode_cons, ByteArray.extract_eq_extract_append_extract (start + c.utf8Size)
      (by omega) (by omega)] at hsplit
    have hsize : (bytes.extract start (start + c.utf8Size)).size = [c].utf8Encode.size := by
      rw [ByteArray.size_extract, size_utf8Encode]
      simp
      omega
    have hfirst := ByteArray.append_inj_left hsplit hsize
    rw [hfirst, ByteArray.append_right_inj] at hsplit
    exact ⟨charAt?_eq_some_iff.2 hfirst, by omega, hle, hsplit⟩
  · rintro ⟨hc, h⟩
    exact (singleton_iff.2 ⟨hc, rfl⟩).append h

theorem split (h : Spells bytes start stop (text ++ more)) :
    Spells bytes start (start + size text) text ∧ Spells bytes (start + size text) stop more := by
  induction text generalizing start with
  | nil => exact ⟨.refl (Nat.le_trans h.start_le h.stop_le), h⟩
  | cons c text ih =>
    obtain ⟨hc, hrest⟩ := cons_iff.1 h
    obtain ⟨htext, hmore⟩ := ih hrest
    rw [size_cons, ← Nat.add_assoc]
    exact ⟨cons_iff.2 ⟨hc, htext⟩, hmore⟩

theorem textFrom_eq (h : Spells bytes start stop text) :
    textFrom bytes start = text ++ textFrom bytes stop := by
  induction text generalizing start with
  | nil =>
    have hstop : stop = start := by simpa using h.stop_eq
    rw [hstop, List.nil_append]
  | cons c text ih =>
    obtain ⟨hc, hrest⟩ := cons_iff.1 h
    rw [textFrom_of_some hc, ih hrest, List.cons_append]

theorem isValidUTF8 (h : Spells bytes start stop text) :
    (bytes.extract start stop).IsValidUTF8 :=
  ⟨text, h.extract_eq⟩

theorem slice?_eq (h : Spells bytes start stop text) :
    (Span.mk start stop).slice? bytes = some text.utf8Encode := by
  rw [Span.slice?, if_pos ⟨h.start_le, h.stop_le⟩, h.extract_eq]

end Spells

theorem textFrom_utf8Encode (text : List Char) : textFrom text.utf8Encode 0 = text := by
  have hspells : Spells text.utf8Encode 0 text.utf8Encode.size text :=
    ⟨Nat.zero_le _, Nat.le_refl _, ByteArray.extract_zero_size⟩
  rw [hspells.textFrom_eq, textFrom_eq_nil_of_size_le (Nat.le_refl _), List.append_nil]

/-- Only one text is spelled between two offsets. -/
theorem Spells.unique {bytes : ByteArray} {start stop : Nat} {text text' : List Char}
    (h : Spells bytes start stop text) (h' : Spells bytes start stop text') : text = text' := by
  rw [← textFrom_utf8Encode text, ← h.extract_eq, h'.extract_eq, textFrom_utf8Encode]

/-! ## Boundaries -/

/-- The bytes before the offset are text. -/
def IsBoundary (bytes : ByteArray) (offset : Nat) : Prop :=
  offset ≤ bytes.size ∧ (bytes.extract 0 offset).IsValidUTF8

theorem isBoundary_iff_exists_spells {bytes : ByteArray} {offset : Nat} :
    IsBoundary bytes offset ↔ ∃ text, Spells bytes 0 offset text := by
  constructor
  · rintro ⟨hle, ⟨text, htext⟩⟩
    exact ⟨text, Nat.zero_le _, hle, htext⟩
  · rintro ⟨text, h⟩
    exact ⟨h.stop_le, h.isValidUTF8⟩

theorem isBoundary_zero (bytes : ByteArray) : IsBoundary bytes 0 :=
  isBoundary_iff_exists_spells.2 ⟨[], .refl (Nat.zero_le _)⟩

theorem IsBoundary.of_spells {bytes : ByteArray} {start stop : Nat} {text : List Char}
    (hstart : IsBoundary bytes start) (h : Spells bytes start stop text) :
    IsBoundary bytes stop := by
  obtain ⟨before, hbefore⟩ := isBoundary_iff_exists_spells.1 hstart
  exact isBoundary_iff_exists_spells.2 ⟨_, hbefore.append h⟩

theorem spells_validEnd {bytes : ByteArray} {offset : Nat} (h : offset ≤ bytes.size) :
    Spells bytes offset (validEnd bytes offset) (textFrom bytes offset) := by
  unfold validEnd
  fun_induction validUpTo bytes bytes.size offset with
  | case1 offset c hc _ _ hle ih =>
    rw [textFrom_of_some hc]
    exact Spells.cons_iff.2 ⟨hc, ih hle⟩
  | case2 offset c hc _ _ hle => exact absurd (le_size_of_charAt? hc) hle
  | case3 offset hc =>
    rw [textFrom_of_none hc]
    exact .refl h

theorem spells_of_textFrom_eq {bytes : ByteArray} {offset : Nat} {text rest : List Char}
    (h : offset ≤ bytes.size) (htext : textFrom bytes offset = text ++ rest) :
    Spells bytes offset (offset + size text) text := by
  induction text generalizing offset with
  | nil => exact .refl h
  | cons c text ih =>
    have hc : charAt? bytes offset = some c := by
      rw [← head?_textFrom, htext]
      rfl
    rw [textFrom_of_some hc, List.cons_append, List.cons.injEq] at htext
    have hrest := ih (le_size_of_charAt? hc) htext.2
    rw [size_cons, ← Nat.add_assoc]
    exact Spells.cons_iff.2 ⟨hc, hrest⟩

theorem Spells.validEnd_eq {bytes : ByteArray} {start stop : Nat} {text : List Char}
    (h : Spells bytes start stop text) : validEnd bytes stop = validEnd bytes start := by
  have hstart := spells_validEnd (Nat.le_trans h.start_le h.stop_le)
  have hstop := h.append (spells_validEnd h.stop_le)
  rw [← h.textFrom_eq] at hstop
  rw [hstart.stop_eq, hstop.stop_eq]

theorem IsBoundary.validEnd_eq {bytes : ByteArray} {offset : Nat} (h : IsBoundary bytes offset) :
    validEnd bytes offset = validEnd bytes 0 := by
  obtain ⟨text, htext⟩ := isBoundary_iff_exists_spells.1 h
  exact htext.validEnd_eq

/-- The place where decoding from the start of the buffer fails is its last boundary. -/
theorem isGreatest_validEnd (bytes : ByteArray) :
    IsGreatest {offset | IsBoundary bytes offset} (validEnd bytes 0) := by
  constructor
  · exact (isBoundary_zero bytes).of_spells (spells_validEnd (Nat.zero_le _))
  · intro offset h
    rw [← IsBoundary.validEnd_eq h]
    exact (spells_validEnd h.1).start_le

/-! ## Bytes of a code point -/

theorem high_of_mem_utf8EncodeChar {c : Char} (hc : c.utf8Size ≠ 1) {b : UInt8}
    (hb : b ∈ String.utf8EncodeChar c) : 0x80 ≤ b := by
  have hwide : ¬ c.val.toNat ≤ 0x7F := fun h =>
    hc (Char.utf8Size_eq_one_iff.2 (UInt32.le_iff_toNat_le.2 h))
  rw [UInt8.le_iff_toNat_le]
  unfold String.utf8EncodeChar at hb
  simp only [hwide, if_false] at hb
  split at hb
  · simp only [List.mem_cons, List.not_mem_nil, or_false] at hb
    rcases hb with rfl | rfl <;> simp <;> omega
  · split at hb
    · simp only [List.mem_cons, List.not_mem_nil, or_false] at hb
      rcases hb with rfl | rfl | rfl <;> simp <;> omega
    · simp only [List.mem_cons, List.not_mem_nil, or_false] at hb
      rcases hb with rfl | rfl | rfl | rfl <;> simp <;> omega

/-- A line feed is the only code point whose encoding holds the byte of one. -/
theorem count_lineFeed_utf8EncodeChar (c : Char) :
    (String.utf8EncodeChar c).count 0x0A = if c = '\n' then 1 else 0 := by
  by_cases hc : c.utf8Size = 1
  · rw [String.utf8EncodeChar_eq_singleton hc, List.count_singleton]
    have hiff : (c.val.toUInt8 == 0x0A) = true ↔ c = '\n' := by
      have hlt : c.val.toNat ≤ 0x7F := UInt32.le_iff_toNat_le.1 (Char.utf8Size_eq_one_iff.1 hc)
      rw [beq_iff_eq, ← UInt8.toNat_inj, UInt32.toNat_toUInt8, ← Char.val_inj, ← UInt32.toNat_inj]
      show c.val.toNat % 256 = 10 ↔ c.val.toNat = 10
      omega
    simp only [hiff]
  · have hne : c ≠ '\n' := by
      rintro rfl
      exact hc rfl
    rw [if_neg hne, List.count_eq_zero]
    intro hmem
    exact absurd (high_of_mem_utf8EncodeChar hc hmem) (by decide)

theorem firstByte_of_isLineTerminator {c : Char} (h : isLineTerminator c = true) :
    (String.utf8EncodeChar c)[0]? = some 0x0A ∨ (String.utf8EncodeChar c)[0]? = some 0x0D ∨
      (String.utf8EncodeChar c)[0]? = some 0xE2 := by
  simp only [isLineTerminator, Bool.or_eq_true, beq_iff_eq] at h
  obtain ((rfl | rfl) | rfl) | rfl := h <;> decide

theorem getElem?_eq_toList (bytes : ByteArray) (i : Nat) : bytes[i]? = bytes.data.toList[i]? := by
  simp [getElem?_def, ByteArray.getElem_eq_getElem_data]

theorem take_drop_of_charAt? {bytes : ByteArray} {offset : Nat} {c : Char}
    (h : charAt? bytes offset = some c) :
    (bytes.data.toList.drop offset).take c.utf8Size = String.utf8EncodeChar c := by
  have hbytes := congrArg (fun b => b.data.toList) (charAt?_eq_some_iff.1 h)
  simpa [List.utf8Encode_singleton] using hbytes

/-- The number of line feed bytes before the offset. -/
def lineFeedsBefore (bytes : ByteArray) (offset : Nat) : Nat :=
  (bytes.data.toList.take offset).count 0x0A

theorem lineFeedsBefore_add_utf8Size {bytes : ByteArray} {offset : Nat} {c : Char}
    (h : charAt? bytes offset = some c) :
    lineFeedsBefore bytes (offset + c.utf8Size) =
      lineFeedsBefore bytes offset + if c = '\n' then 1 else 0 := by
  rw [lineFeedsBefore, List.take_add, List.count_append, take_drop_of_charAt? h,
    count_lineFeed_utf8EncodeChar]
  rfl

end Lexis.Utf8
