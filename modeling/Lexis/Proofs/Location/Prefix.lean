import Mathlib.Data.List.Basic
import Lexis.Proofs.Location.Spelled
import Lexis.Proofs.Utf8.Parts

/-!
# Places in front of other bytes

Where a text goes over into other bytes, the line and the column of a place in the text are those
in the text alone (`place_append`): the other bytes do not complete a line terminator, and only the
end of the last line can be further on.
-/

namespace Lexis

open CharClass

variable {a b bytes : ByteArray} {start stop offset : Nat} {ch : Char} {text : List Char}

namespace Utf8

/-- Each byte of a text belongs to a code point, behind which the text goes on. -/
theorem Spells.exists_charAt? (h : Spells bytes start stop text) (hstart : start ≤ offset)
    (hlt : offset < stop) :
    ∃ first ch behind, charAt? bytes first = some ch ∧ first ≤ offset ∧
      offset < first + ch.utf8Size ∧ Spells bytes (first + ch.utf8Size) stop behind := by
  induction text generalizing start with
  | nil =>
    have hstop : stop = start := h.stop_eq
    omega
  | cons ch text ih =>
    obtain ⟨hch, hrest⟩ := Spells.cons_iff.1 h
    by_cases hinside : offset < start + ch.utf8Size
    · exact ⟨start, ch, text, hch, hstart, hinside, hrest⟩
    · exact ih hrest (Nat.le_of_not_lt hinside)

end Utf8

theorem terminatorWidthAt_of_charAt? (h : Utf8.charAt? bytes offset = some ch) :
    terminatorWidthAt bytes offset = if isLineTerminator ch then ch.utf8Size else 0 := by
  by_cases hch : isLineTerminator ch = true
  · rw [if_pos hch]
    exact terminatorWidthAt_of_isLineTerminator h hch
  · rw [if_neg hch]
    apply Decidable.of_not_not
    intro hwidth
    exact hch (isLineTerminator_of_terminatorWidthAt h hwidth)

theorem terminatorWidthAt_append (ha : a.IsValidUTF8) (hlt : offset < a.size) (b : ByteArray) :
    terminatorWidthAt (a ++ b) offset = terminatorWidthAt a offset := by
  obtain ⟨text, htext⟩ := ha
  have hspells : Utf8.Spells a 0 a.size text :=
    ⟨Nat.zero_le _, Nat.le_refl _, htext ▸ ByteArray.extract_zero_size⟩
  obtain ⟨first, ch, -, hch, hle, hinside, -⟩ := hspells.exists_charAt? (Nat.zero_le _) hlt
  have hch' := Utf8.charAt?_append_left hch b
  obtain rfl | hlt := Nat.eq_or_lt_of_le hle
  · rw [terminatorWidthAt_of_charAt? hch, terminatorWidthAt_of_charAt? hch']
  · rw [terminatorWidthAt_inside hch hlt hinside, terminatorWidthAt_inside hch' hlt hinside]

theorem start_of_terminatorAt? {t : Span} (h : terminatorAt? bytes offset = some t) :
    t.start = offset ∧ offset < t.stop := by
  rw [terminatorAt?_eq] at h
  split at h
  · cases h
  · rename_i hwidth
    cases h
    exact ⟨rfl, Nat.lt_add_of_pos_right (Nat.pos_of_ne_zero hwidth)⟩

/-- The line terminators of the text come first, and all others begin behind it. -/
theorem terminators_append (ha : a.IsValidUTF8) (b : ByteArray) :
    ∃ behind, terminators (a ++ b) = terminators a ++ behind ∧
      ∀ t ∈ behind, a.size ≤ t.start ∧ t.start < t.stop := by
  refine ⟨((List.range b.size).map (a.size + ·)).filterMap (terminatorAt? (a ++ b)), ?_, ?_⟩
  · rw [terminators, ByteArray.size_append, List.range_add, List.filterMap_append]
    congr 1
    apply List.filterMap_congr
    intro offset hlt
    rw [terminatorAt?_eq, terminatorAt?_eq, terminatorWidthAt_append ha (List.mem_range.1 hlt)]
  · intro t ht
    obtain ⟨offset, hmem, hfound⟩ := List.mem_filterMap.1 ht
    obtain ⟨i, -, rfl⟩ := List.mem_map.1 hmem
    obtain ⟨hstart, hstop⟩ := start_of_terminatorAt? hfound
    rw [hstart]
    exact ⟨Nat.le_add_right _ _, hstop⟩

theorem settle_le (bytes : ByteArray) (offset : Nat) : settle bytes offset ≤ offset := by
  unfold settle
  split
  · rename_i t hfound
    have hinside := List.find?_some hfound
    simp only [Bool.and_eq_true, decide_eq_true_eq] at hinside
    exact Nat.le_of_lt hinside.1
  · exact Nat.le_refl _

theorem settle_append (ha : a.IsValidUTF8) (hle : offset ≤ a.size) (b : ByteArray) :
    settle (a ++ b) offset = settle a offset := by
  obtain ⟨behind, hterminators, hbehind⟩ := terminators_append ha b
  have hnone : (behind.find? fun t => t.start < offset && offset < t.stop) = none := by
    rw [List.find?_eq_none]
    intro t ht
    have hstart := (hbehind t ht).1
    simp only [Bool.and_eq_true, decide_eq_true_eq, not_and]
    omega
  rw [settle, settle, hterminators, List.find?_append, hnone, Option.or_none]

theorem followsReturn_append {t : Span} (hlt : t.start < a.size) (b : ByteArray) :
    followsReturn (a ++ b) t = followsReturn a t := by
  have hbefore : t.start - 1 < a.size := Nat.lt_of_le_of_lt (Nat.sub_le _ _) hlt
  rw [followsReturn, followsReturn, Utf8.getElem?_append_left hlt,
    Utf8.getElem?_append_left hbefore]

theorem place_append (ha : a.IsValidUTF8) (hle : offset ≤ a.size) (b : ByteArray) :
    (place (a ++ b) offset).line = (place a offset).line ∧
      (place (a ++ b) offset).column = (place a offset).column := by
  obtain ⟨behind, hterminators, hbehind⟩ := terminators_append ha b
  have hsettled := settle_le a offset
  have hmin : min offset (a ++ b).size = offset := by
    rw [ByteArray.size_append]
    omega
  have hbefore : (terminators (a ++ b)).filter (·.stop ≤ settle (a ++ b) offset) =
      (terminators a).filter (·.stop ≤ settle a offset) := by
    have hnone : behind.filter (·.stop ≤ settle a offset) = [] := by
      rw [List.filter_eq_nil_iff]
      intro t ht
      obtain ⟨hstart, hstop⟩ := hbehind t ht
      simp only [decide_eq_true_eq]
      omega
    rw [settle_append ha hle, hterminators, List.filter_append, hnone, List.append_nil]
  have hlines : ((terminators a).filter (·.stop ≤ settle a offset)).countP
        (!followsReturn (a ++ b) ·) =
      ((terminators a).filter (·.stop ≤ settle a offset)).countP (!followsReturn a ·) := by
    apply List.countP_congr
    intro t ht
    have hwidth := (mem_terminators.1 (List.mem_filter.1 ht).1).1
    rw [followsReturn_append (lt_size_of_terminatorWidthAt hwidth)]
  simp only [place, hmin, Nat.min_eq_left hle, hbefore, hlines, Utf8.extract_append_left hle,
    and_self]

end Lexis
