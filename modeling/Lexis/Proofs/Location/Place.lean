import Lexis.Proofs.Location.Terminators
import Lexis.Proofs.Utf8.Spelling

/-!
# Places without a history

`place` reads the coordinates of an offset off the list of all line terminators of a buffer. An
offset inside a terminator of several bytes is on the line that the terminator ends. From where a
walk to the offset comes to rest, the same coordinates are found by looking at nearby bytes
(`place_eq`).
-/

namespace Lexis

/-- The line terminator that begins at the offset. -/
def terminatorAt? (bytes : ByteArray) (offset : Nat) : Option Span :=
  if bytes[offset]? = some 0x0A ∨ bytes[offset]? = some 0x0D then some ⟨offset, offset + 1⟩
  else if bytes[offset]? = some 0xE2 ∧ bytes[offset + 1]? = some 0x80 ∧
      (bytes[offset + 2]? = some 0xA8 ∨ bytes[offset + 2]? = some 0xA9) then
    some ⟨offset, offset + 3⟩
  else none

def terminators (bytes : ByteArray) : List Span :=
  (List.range bytes.size).filterMap (terminatorAt? bytes)

/-- Whether the terminator is a line feed with a carriage return before it. -/
def followsReturn (bytes : ByteArray) (t : Span) : Bool :=
  bytes[t.start]? == some 0x0A && 1 ≤ t.start && bytes[t.start - 1]? == some 0x0D

/-- The offset, or the start of the terminator that it lies inside. -/
def settle (bytes : ByteArray) (offset : Nat) : Nat :=
  match (terminators bytes).find? fun t => t.start < offset && offset < t.stop with
  | some t => t.start
  | none => offset

/-- The coordinates of an offset; an offset beyond the buffer stands for its end. -/
def place (bytes : ByteArray) (offset : Nat) : LineColumn :=
  let offset := min offset bytes.size
  let settled := settle bytes offset
  let before := (terminators bytes).filter (·.stop ≤ settled)
  let behind := (terminators bytes).filter (settled ≤ ·.start)
  let lineStart := (before.map Span.stop).max?.getD 0
  { line := 1 + before.countP (!followsReturn bytes ·)
    column := (bytes.extract lineStart offset).data.toList.countP (!Utf8.isContinuation ·)
    lineStart
    lineEnd := (behind.map Span.start).min?.getD bytes.size }

variable {bytes : ByteArray} {offset settled : Nat}

theorem terminatorAt?_eq (bytes : ByteArray) (offset : Nat) :
    terminatorAt? bytes offset =
      if terminatorWidthAt bytes offset = 0 then none
      else some ⟨offset, offset + terminatorWidthAt bytes offset⟩ := by
  unfold terminatorAt?
  split
  · rename_i hbreak
    have hwidth : terminatorWidthAt bytes offset = 1 := by
      rcases hbreak with hb | hb <;> exact terminatorWidthAt_of_lineBreak hb rfl
    simp [hwidth]
  · rename_i hbreak
    split
    · rename_i hsep
      have hwidth : terminatorWidthAt bytes offset = 3 :=
        terminatorWidthAt_of_separator (by simp [isSeparatorAt, hsep])
      simp [hwidth]
    · rename_i hsep
      rcases terminatorWidthAt_cases bytes offset with h0 | ⟨-, hb⟩ | ⟨-, hb⟩
      · simp [h0]
      · exact absurd hb hbreak
      · exact absurd hb hsep

theorem mem_terminators {t : Span} :
    t ∈ terminators bytes ↔
      terminatorWidthAt bytes t.start ≠ 0 ∧ t.stop = t.start + terminatorWidthAt bytes t.start := by
  simp only [terminators, List.mem_filterMap, List.mem_range, terminatorAt?_eq]
  constructor
  · rintro ⟨start, -, h⟩
    split at h
    · cases h
    · rename_i hwidth
      cases h
      exact ⟨hwidth, rfl⟩
  · rintro ⟨hwidth, hstop⟩
    refine ⟨t.start, lt_size_of_terminatorWidthAt hwidth, ?_⟩
    rw [if_neg hwidth, ← hstop]

/-! ## Where a walk comes to rest -/

/-- The offset itself if no terminator reaches over it, or else the start of the one that does. -/
structure Settles (bytes : ByteArray) (offset settled : Nat) : Prop where
  outside : Outside bytes settled
  le : settled ≤ offset
  eq_or_lt : settled = offset ∨ offset < settled + terminatorWidthAt bytes settled

theorem Settles.settle_eq (h : Settles bytes offset settled) : settle bytes offset = settled := by
  unfold settle
  split
  · rename_i t hfind
    obtain ⟨hwidth, hstop⟩ := mem_terminators.1 (List.mem_of_find?_eq_some hfind)
    have hinside : t.start < offset ∧ offset < t.stop := by
      simpa using List.find?_some hfind
    have hge : settled ≤ t.start := by
      apply Nat.le_of_not_lt
      intro hlt
      have := h.outside t.start hlt
      have := h.le
      rcases h.eq_or_lt with heq | hreach
      · omega
      · omega
    by_cases heq : t.start = settled
    · exact heq
    · rcases h.eq_or_lt with hrest | hreach
      · omega
      · exact absurd
          (terminatorWidthAt_eq_zero_of_inside (show settled < t.start by omega) (by omega)) hwidth
  · rename_i hfind
    rcases h.eq_or_lt with heq | hreach
    · exact heq.symm
    · by_cases heq : settled = offset
      · exact heq.symm
      · have hle := h.le
        have hmem : ⟨settled, settled + terminatorWidthAt bytes settled⟩ ∈ terminators bytes :=
          mem_terminators.2 ⟨by dsimp only; omega, rfl⟩
        have hnone := List.find?_eq_none.1 hfind _ hmem
        simp only [Bool.and_eq_true, decide_eq_true_eq] at hnone
        omega

/-! ## The parts of a place -/

/-- The number of lines that end before the offset. -/
def linesBefore (bytes : ByteArray) : Nat → Nat
  | 0 => 0
  | offset + 1 =>
    linesBefore bytes offset +
      if terminatorWidthAt bytes offset = 0 then 0 else linesEndedAt bytes offset

theorem countP_terminators_eq (h : Outside bytes settled) (hle : settled ≤ bytes.size) :
    ((terminators bytes).filter (·.stop ≤ settled)).countP (!followsReturn bytes ·) =
      linesBefore bytes settled := by
  have hcount : ∀ n, (((List.range n).filterMap (terminatorAt? bytes)).filter
      (·.stop ≤ settled)).countP (!followsReturn bytes ·) = linesBefore bytes (min n settled) := by
    intro n
    induction n with
    | zero => rw [Nat.zero_min]; rfl
    | succ n ih =>
      rw [List.range_succ, List.filterMap_append, List.filter_append, List.countP_append, ih]
      by_cases hlt : n < settled
      · rw [show min n settled = n by omega, show min (n + 1) settled = n + 1 by omega,
          linesBefore]
        have hreach := h n hlt
        by_cases hwidth : terminatorWidthAt bytes n = 0
        · simp [terminatorAt?_eq, hwidth]
        · have hended : linesEndedAt bytes n =
              if followsReturn bytes ⟨n, n + terminatorWidthAt bytes n⟩ then 0 else 1 := rfl
          simp only [List.filterMap_cons, terminatorAt?_eq, if_neg hwidth, List.filterMap_nil]
          rw [List.filter_cons_of_pos (by simpa using hreach), List.filter_nil,
            List.countP_singleton, hended]
          cases followsReturn bytes ⟨n, n + terminatorWidthAt bytes n⟩ <;> rfl
      · rw [show min n settled = settled by omega, show min (n + 1) settled = settled by omega]
        by_cases hwidth : terminatorWidthAt bytes n = 0
        · simp [terminatorAt?_eq, hwidth]
        · have hbeyond : ¬ n + terminatorWidthAt bytes n ≤ settled := by omega
          simp [terminatorAt?_eq, hwidth, hbeyond]
  rw [terminators, hcount, Nat.min_eq_right hle]

theorem max?_terminators_eq (bytes : ByteArray) (settled : Nat) :
    (((terminators bytes).filter (·.stop ≤ settled)).map Span.stop).max?.getD 0 =
      lineStartBefore bytes settled := by
  have hle : ∀ n ∈ ((terminators bytes).filter (·.stop ≤ settled)).map Span.stop,
      n ≤ lineStartBefore bytes settled := by
    simp only [List.mem_map, List.mem_filter, decide_eq_true_eq]
    rintro _ ⟨t, ⟨hmem, hstop⟩, rfl⟩
    obtain ⟨hwidth, heq⟩ := mem_terminators.1 hmem
    refine le_lineStartBefore hstop ?_
    rwa [heq, terminatorWidthBefore_add hwidth]
  have hmem : lineStartBefore bytes settled = 0 ∨ lineStartBefore bytes settled ∈
      ((terminators bytes).filter (·.stop ≤ settled)).map Span.stop := by
    apply (lineStartBefore_eq_zero_or bytes settled).imp_right
    intro hwidth
    obtain ⟨hback, hstart⟩ := terminatorWidthAt_sub hwidth
    have hstop := lineStartBefore_le bytes settled
    let last : Span := ⟨lineStartBefore bytes settled -
      terminatorWidthBefore bytes (lineStartBefore bytes settled), lineStartBefore bytes settled⟩
    have hlast : last ∈ terminators bytes := by
      refine mem_terminators.2 ⟨hstart ▸ hwidth, ?_⟩
      rw [hstart]
      exact (Nat.sub_add_cancel hback).symm
    exact List.mem_map.2 ⟨last, List.mem_filter.2 ⟨hlast, by simpa [last] using hstop⟩, rfl⟩
  cases hmax : (((terminators bytes).filter (·.stop ≤ settled)).map Span.stop).max? with
  | none =>
    rw [List.max?_eq_none_iff] at hmax
    rw [hmax] at hmem
    simpa [eq_comm] using hmem
  | some m =>
    obtain ⟨hm, hbound⟩ := List.max?_eq_some_iff.1 hmax
    rcases hmem with h0 | hmem
    · have := hle m hm
      simp only [Option.getD_some]
      omega
    · exact Nat.le_antisymm (hle m hm) (hbound _ hmem)

theorem min?_terminators_eq (hsize : settled ≤ bytes.size) :
    (((terminators bytes).filter (settled ≤ ·.start)).map Span.start).min?.getD bytes.size =
      lineEndFrom bytes settled := by
  have hle : ∀ n ∈ ((terminators bytes).filter (settled ≤ ·.start)).map Span.start,
      lineEndFrom bytes settled ≤ n := by
    simp only [List.mem_map, List.mem_filter, decide_eq_true_eq]
    rintro _ ⟨t, ⟨hmem, hstart⟩, rfl⟩
    exact lineEndFrom_le hstart (mem_terminators.1 hmem).1
  have hmem : lineEndFrom bytes settled = bytes.size ∨ lineEndFrom bytes settled ∈
      ((terminators bytes).filter (settled ≤ ·.start)).map Span.start := by
    apply (lineEndFrom_eq_size_or bytes settled).imp_right
    intro hwidth
    let next : Span := ⟨lineEndFrom bytes settled,
      lineEndFrom bytes settled + terminatorWidthAt bytes (lineEndFrom bytes settled)⟩
    have hnext : next ∈ terminators bytes := mem_terminators.2 ⟨hwidth, rfl⟩
    exact List.mem_map.2 ⟨next, List.mem_filter.2 ⟨hnext, by
      simpa [next] using le_lineEndFrom hsize⟩, rfl⟩
  cases hmin : (((terminators bytes).filter (settled ≤ ·.start)).map Span.start).min? with
  | none =>
    rw [List.min?_eq_none_iff] at hmin
    rw [hmin] at hmem
    simpa [eq_comm] using hmem
  | some m =>
    obtain ⟨hm, hbound⟩ := List.min?_eq_some_iff.1 hmin
    rcases hmem with hend | hmem
    · obtain ⟨t, ht, rfl⟩ := List.mem_map.1 hm
      have := lt_size_of_terminatorWidthAt (mem_terminators.1 (List.mem_filter.1 ht).1).1
      have := hle t.start hm
      omega
    · exact Nat.le_antisymm (hbound _ hmem) (hle m hm)

theorem codePointsIn_eq (bytes : ByteArray) (start len : Nat) :
    codePointsIn bytes start len =
      (bytes.extract start (start + len)).data.toList.countP (!Utf8.isContinuation ·) := by
  induction len with
  | zero => simp [codePointsIn]
  | succ len ih =>
    have hlast : (bytes.data.toList.drop start)[len]? = bytes[start + len]? := by
      rw [List.getElem?_drop, Utf8.getElem?_eq_toList]
    rw [codePointsIn, ih]
    simp only [ByteArray.data_extract, Array.toList_extract, List.extract_eq_take_drop,
      Nat.add_sub_cancel_left]
    rw [List.take_add_one, List.countP_append, hlast]
    cases bytes[start + len]? with
    | none => rfl
    | some b =>
      simp only [Option.any_some, Option.toList_some, List.countP_singleton]
      cases Utf8.isContinuation b <;> rfl

/-- From where a walk comes to rest, the coordinates are found nearby. -/
theorem place_eq (h : Settles bytes (min offset bytes.size) settled) :
    place bytes offset =
      { line := linesBefore bytes settled + 1
        column := codePointsIn bytes (lineStartBefore bytes settled)
          (min offset bytes.size - lineStartBefore bytes settled)
        lineStart := lineStartBefore bytes settled
        lineEnd := lineEndFrom bytes settled } := by
  have hsettled := h.le
  have hstart := lineStartBefore_le bytes settled
  have hcolumn := codePointsIn_eq bytes (lineStartBefore bytes settled)
    (min offset bytes.size - lineStartBefore bytes settled)
  rw [Nat.add_sub_cancel' (by omega)] at hcolumn
  simp only [place, h.settle_eq, max?_terminators_eq, hcolumn,
    countP_terminators_eq h.outside (show settled ≤ bytes.size by omega),
    min?_terminators_eq (show settled ≤ bytes.size by omega), Nat.add_comm 1]

end Lexis
