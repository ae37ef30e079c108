import Lexis.Proofs.Utf8.Spelling

/-!
# Parts of a buffer

Reading in the second one of two buffers that have been put together is reading in it alone, and so
is reading in what is left of a buffer from an offset on.
-/

namespace Lexis.Utf8

variable {a b bytes : ByteArray} {start stop : Nat} {text : List Char}

theorem charAt?_append (a b : ByteArray) (offset : Nat) :
    charAt? (a ++ b) (a.size + offset) = charAt? b offset := by
  refine Option.ext fun ch => ?_
  rw [charAt?_eq_some_iff, charAt?_eq_some_iff, Nat.add_assoc, ByteArray.extract_append_size_add]

theorem textFrom_append (a b : ByteArray) (offset : Nat) :
    textFrom (a ++ b) (a.size + offset) = textFrom b offset := by
  fun_induction textFrom b offset with
  | case1 offset ch hch _ _ ih =>
    rw [textFrom_of_some ((charAt?_append a b offset).trans hch), Nat.add_assoc, ih]
  | case2 offset hnone => exact textFrom_of_none ((charAt?_append a b offset).trans hnone)

/-- Cutting off what is before an offset leaves the text from there on. -/
theorem textFrom_extract {cut : Nat} (h : cut ≤ bytes.size) (offset : Nat) :
    textFrom (bytes.extract cut bytes.size) offset = textFrom bytes (cut + offset) := by
  have hparts : bytes = bytes.extract 0 cut ++ bytes.extract cut bytes.size := by
    rw [← ByteArray.extract_eq_extract_append_extract cut (Nat.zero_le _) h,
      ByteArray.extract_zero_size]
  have hsize : (bytes.extract 0 cut).size = cut := by
    rw [ByteArray.size_extract, Nat.min_eq_left h, Nat.sub_zero]
  have hread := textFrom_append (bytes.extract 0 cut) (bytes.extract cut bytes.size) offset
  rw [← hparts, hsize] at hread
  exact hread.symm

theorem getElem?_append_left {i : Nat} (hi : i < a.size) (b : ByteArray) :
    (a ++ b)[i]? = a[i]? := by
  rw [getElem?_eq_toList, getElem?_eq_toList, ByteArray.data_append, Array.toList_append]
  exact List.getElem?_append_left hi

theorem extract_append_left (hle : stop ≤ a.size) (b : ByteArray) :
    (a ++ b).extract start stop = a.extract start stop := by
  rw [ByteArray.extract_append, Nat.sub_eq_zero_of_le hle,
    ByteArray.extract_eq_empty_iff.2 (Nat.le_trans (Nat.min_le_left _ _) (Nat.zero_le _)),
    ByteArray.append_empty]

/-- What a buffer spells it still spells with another one behind it. -/
theorem Spells.append_bytes (h : Spells a start stop text) (b : ByteArray) :
    Spells (a ++ b) start stop text where
  start_le := h.start_le
  stop_le := by
    rw [ByteArray.size_append]
    exact Nat.le_add_right_of_le h.stop_le
  extract_eq := by
    rw [extract_append_left h.stop_le, h.extract_eq]

theorem charAt?_append_left {offset : Nat} {ch : Char} (h : charAt? a offset = some ch)
    (b : ByteArray) : charAt? (a ++ b) offset = some ch := by
  have hspells : Spells a offset (offset + ch.utf8Size) [ch] := Spells.singleton_iff.2 ⟨h, rfl⟩
  exact (Spells.singleton_iff.1 (hspells.append_bytes b)).1

/-- A buffer that is text is read to its end, and then what is behind it. -/
theorem textFrom_append_of_isValidUTF8 (ha : a.IsValidUTF8) (b : ByteArray) :
    a = (textFrom a 0).utf8Encode ∧ textFrom (a ++ b) 0 = textFrom a 0 ++ textFrom b 0 := by
  obtain ⟨text, rfl⟩ := ha
  rw [textFrom_utf8Encode]
  refine ⟨rfl, ?_⟩
  have hspells : Spells text.utf8Encode 0 text.utf8Encode.size text :=
    ⟨Nat.zero_le _, Nat.le_refl _, ByteArray.extract_zero_size⟩
  rw [(hspells.append_bytes b).textFrom_eq]
  exact congrArg (text ++ ·) (textFrom_append text.utf8Encode b 0)

/-- Where nothing is left to read of a buffer that is text, the buffer ends. -/
theorem IsBoundary.eq_size (h : IsBoundary bytes stop) (htext : textFrom bytes stop = [])
    (hvalid : bytes.IsValidUTF8) : stop = bytes.size := by
  obtain ⟨text, hspells⟩ := isBoundary_iff_exists_spells.1 h
  have hall : textFrom bytes 0 = text := by
    rw [hspells.textFrom_eq, htext, List.append_nil]
  have hbytes := (textFrom_append_of_isValidUTF8 hvalid .empty).1
  rw [hspells.stop_eq, Nat.zero_add, ← hall, ← size_utf8Encode, ← hbytes]

end Lexis.Utf8
