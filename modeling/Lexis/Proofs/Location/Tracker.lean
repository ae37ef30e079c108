import Lexis.Proofs.Location.Place

/-!
# Trackers forget nothing and invent nothing

Whatever a tracker has been asked before, in either direction, its next answer is the place of the
offset (`answers_eq_place`). What it remembers is right of where it stands (`Sound`), and each step
of a walk keeps that: forward over a byte or a terminator, backward over a byte or a terminator. No
coordinate exceeds the buffer by more than one, so that none is cut off in 32 bits (`Fits`).
-/

namespace Lexis

variable {bytes : ByteArray} {offset : Nat}

theorem linesBefore_add_width (h : terminatorWidthAt bytes offset ≠ 0) :
    linesBefore bytes (offset + terminatorWidthAt bytes offset) =
      linesBefore bytes offset + linesEndedAt bytes offset := by
  rcases terminatorWidthAt_cases bytes offset with h0 | ⟨hw, -⟩ | ⟨hw, -⟩
  · exact absurd h0 h
  · rw [hw, linesBefore, if_neg h]
  · have hsecond : terminatorWidthAt bytes (offset + 1) = 0 :=
      terminatorWidthAt_eq_zero_of_inside (Nat.lt_succ_self offset) (by omega)
    have hthird : terminatorWidthAt bytes (offset + 2) = 0 :=
      terminatorWidthAt_eq_zero_of_inside (show offset < offset + 2 by omega) (by omega)
    rw [hw, linesBefore, linesBefore, linesBefore, if_neg h, if_pos hsecond, if_pos hthird,
      Nat.add_zero]

/-! ## Bounds -/

theorem linesBefore_le (bytes : ByteArray) (offset : Nat) : linesBefore bytes offset ≤ offset := by
  induction offset with
  | zero => exact Nat.le_refl _
  | succ offset ih =>
    have hended : linesEndedAt bytes offset ≤ 1 := by
      unfold linesEndedAt
      split <;> decide
    rw [linesBefore]
    split <;> omega

theorem codePointsIn_le (bytes : ByteArray) (start len : Nat) :
    codePointsIn bytes start len ≤ len := by
  induction len with
  | zero => exact Nat.le_refl _
  | succ len ih => exact Nat.add_le_add ih (Bool.toNat_le _)

/-- The coordinates fit into 32 bits. -/
structure LineColumn.Fits (p : LineColumn) : Prop where
  line_lt : p.line < UInt32.size
  column_lt : p.column < UInt32.size
  lineStart_lt : p.lineStart < UInt32.size
  lineEnd_lt : p.lineEnd < UInt32.size

namespace LineTracker

variable {t : LineTracker} {target : Nat}

/-- What the tracker remembers is right of where it stands. -/
structure Sound (t : LineTracker) : Prop where
  offset_le : t.offset ≤ t.bytes.size
  outside : Outside t.bytes t.offset
  line_eq : t.line = linesBefore t.bytes t.offset
  lineStart_eq : ∀ start, t.lineStart? = some start → start = lineStartBefore t.bytes t.offset
  lineEnd_eq : ∀ stop, t.lineEnd? = some stop → stop = lineEndFrom t.bytes t.offset

namespace Sound

theorem fresh (path : String) (bytes : ByteArray) : Sound { path, bytes } where
  offset_le := Nat.zero_le _
  outside := .zero bytes
  line_eq := rfl
  lineStart_eq _ h := (Option.some.inj h).symm
  lineEnd_eq _ h := by cases h

theorem line_le (h : t.Sound) : t.line ≤ t.offset := by
  rw [h.line_eq]
  exact linesBefore_le t.bytes t.offset

/-! ## Steps -/

theorem add_one (h : t.Sound) (hlt : t.offset < t.bytes.size)
    (hwidth : terminatorWidthAt t.bytes t.offset = 0) :
    Sound { t with offset := t.offset + 1 } where
  offset_le := hlt
  outside := h.outside.add_one hwidth
  line_eq := by
    show t.line = linesBefore t.bytes (t.offset + 1)
    rw [linesBefore, if_pos hwidth, Nat.add_zero, h.line_eq]
  lineStart_eq start hstart := by
    show start = lineStartBefore t.bytes (t.offset + 1)
    rw [lineStartBefore, if_pos (h.outside.terminatorWidthBefore_add_one hwidth)]
    exact h.lineStart_eq start hstart
  lineEnd_eq stop hstop := by
    have hend := h.lineEnd_eq stop hstop
    rw [lineEndFrom, if_pos hlt, if_pos hwidth] at hend
    exact hend

theorem add_width (h : t.Sound) (hwidth : terminatorWidthAt t.bytes t.offset ≠ 0) :
    Sound { t with
      offset := t.offset + terminatorWidthAt t.bytes t.offset
      line := t.line + linesEndedAt t.bytes t.offset
      lineStart? := some (t.offset + terminatorWidthAt t.bytes t.offset)
      lineEnd? := none } where
  offset_le := add_terminatorWidthAt_le hwidth
  outside := h.outside.add_width
  line_eq := by
    show t.line + _ = linesBefore t.bytes _
    rw [linesBefore_add_width hwidth, h.line_eq]
  lineStart_eq start hstart := by
    rw [← Option.some.inj hstart]
    refine Nat.le_antisymm ?_ (lineStartBefore_le _ _)
    exact le_lineStartBefore (Nat.le_refl _) (by rwa [terminatorWidthBefore_add hwidth])
  lineEnd_eq _ hstop := by cases hstop

theorem sub_one (h : t.Sound) (hpos : 0 < t.offset)
    (hwidth : terminatorWidthBefore t.bytes t.offset = 0) :
    Sound { t with offset := t.offset - 1 } := by
  obtain ⟨before, hbefore⟩ : ∃ before, t.offset = before + 1 := ⟨t.offset - 1, by omega⟩
  have hlt : before < t.bytes.size := by
    have := h.offset_le
    omega
  have houtside := h.outside
  have hline := h.line_eq
  rw [hbefore] at hwidth houtside hline
  have hnone := houtside.terminatorWidthAt_sub_one hwidth
  rw [hbefore, Nat.add_sub_cancel]
  refine ⟨Nat.le_of_lt hlt, houtside.sub_one hwidth, ?_, ?_, ?_⟩
  · rwa [linesBefore, if_pos hnone] at hline
  · intro start hstart
    have hresult := h.lineStart_eq start hstart
    rwa [hbefore, lineStartBefore, if_pos hwidth] at hresult
  · intro stop hstop
    show stop = lineEndFrom t.bytes before
    rw [lineEndFrom, if_pos hlt, if_pos hnone, ← hbefore]
    exact h.lineEnd_eq stop hstop

theorem sub_width (h : t.Sound) (hwidth : terminatorWidthBefore t.bytes t.offset ≠ 0) :
    Sound { t with
      offset := t.offset - terminatorWidthBefore t.bytes t.offset
      line := t.line - linesEndedAt t.bytes (t.offset - terminatorWidthBefore t.bytes t.offset)
      lineStart? := none
      lineEnd? := some (t.offset - terminatorWidthBefore t.bytes t.offset) } := by
  obtain ⟨hle, hstart⟩ := terminatorWidthAt_sub hwidth
  have hat := hstart ▸ hwidth
  refine ⟨Nat.le_trans (Nat.sub_le _ _) h.offset_le, Outside.sub_width hwidth, ?_, ?_, ?_⟩
  · have hlines := linesBefore_add_width hat
    rw [hstart, Nat.sub_add_cancel hle, ← h.line_eq] at hlines
    simp only [hlines]
    omega
  · intro start hnone
    cases hnone
  · intro stop hstop
    rw [← Option.some.inj hstop]
    show _ = lineEndFrom t.bytes _
    rw [lineEndFrom, if_pos (lt_size_of_terminatorWidthAt hat), if_neg hat]

/-! ## Walks -/

theorem forward (h : t.Sound) (htarget : target ≤ t.bytes.size) :
    (t.forward target).Sound ∧ target ≤ (t.forward target).offset := by
  fun_induction LineTracker.forward target t with
  | case1 t hlt width hwidth ih => exact ih (h.add_one (by omega) hwidth) htarget
  | case2 t hlt width hwidth ih => exact ih (h.add_width hwidth) htarget
  | case3 t hge => exact ⟨h, by omega⟩

theorem backward (h : t.Sound) (htarget : target ≤ t.offset) :
    (t.backward target).Sound ∧ Settles t.bytes target (t.backward target).offset := by
  fun_induction LineTracker.backward target t with
  | case1 t hlt width hwidth ih =>
    exact ih (h.sub_one (by omega) hwidth) (show target ≤ t.offset - 1 by omega)
  | case2 t hlt width hwidth ih =>
    have hsound := h.sub_width hwidth
    by_cases hreach : target ≤ t.offset - width
    · exact ih hsound hreach
    · -- The terminator reaches over the target, so that the walk stops at its start.
      obtain ⟨hle, hstart⟩ := terminatorWidthAt_sub hwidth
      rw [LineTracker.backward, if_neg (by show ¬ target < t.offset - width; omega)]
      refine ⟨hsound, hsound.outside, ?_, .inr ?_⟩
      · show t.offset - width ≤ target
        omega
      · show target < t.offset - width + terminatorWidthAt t.bytes (t.offset - width)
        rw [hstart]
        omega
  | case3 t hge => exact ⟨h, h.outside, by omega, .inl (by omega)⟩

theorem resolve_eq (h : t.Sound) :
    t.resolve = { t with
      lineStart? := some (lineStartBefore t.bytes t.offset)
      lineEnd? := some (lineEndFrom t.bytes t.offset) } := by
  have hstart : t.lineStart?.getD (lineStartBefore t.bytes t.offset) =
      lineStartBefore t.bytes t.offset := by
    cases hknown : t.lineStart? with
    | none => rfl
    | some known => exact h.lineStart_eq known hknown
  have hend : t.lineEnd?.getD (lineEndFrom t.bytes t.offset) = lineEndFrom t.bytes t.offset := by
    cases hknown : t.lineEnd? with
    | none => rfl
    | some known => exact h.lineEnd_eq known hknown
  rw [LineTracker.resolve, hstart, hend]

theorem resolve (h : t.Sound) : t.resolve.Sound := by
  rw [h.resolve_eq]
  exact ⟨h.offset_le, h.outside, h.line_eq, fun _ hstart => (Option.some.inj hstart).symm,
    fun _ hend => (Option.some.inj hend).symm⟩

end Sound

/-! ## Answers -/

theorem forward_frame (target : Nat) (t : LineTracker) :
    (t.forward target).path = t.path ∧ (t.forward target).bytes = t.bytes := by
  fun_induction forward target t with
  | case1 t hlt width hwidth ih => exact ih
  | case2 t hlt width hwidth ih => exact ih
  | case3 => exact ⟨rfl, rfl⟩

theorem backward_frame (target : Nat) (t : LineTracker) :
    (t.backward target).path = t.path ∧ (t.backward target).bytes = t.bytes := by
  fun_induction backward target t with
  | case1 t hlt width hwidth ih => exact ih
  | case2 t hlt width hwidth ih => exact ih
  | case3 => exact ⟨rfl, rfl⟩

theorem locate_frame (t : LineTracker) (offset : Nat) :
    (t.locate offset).2.path = t.path ∧ (t.locate offset).2.bytes = t.bytes := by
  obtain ⟨hpath, hbytes⟩ := t.forward_frame (min offset t.bytes.size)
  obtain ⟨hpath', hbytes'⟩ :=
    (t.forward (min offset t.bytes.size)).backward_frame (min offset t.bytes.size)
  exact ⟨hpath'.trans hpath, hbytes'.trans hbytes⟩

theorem Sound.locate (h : t.Sound) (offset : Nat) :
    (t.locate offset).1 = place t.bytes offset ∧ (t.locate offset).2.Sound := by
  obtain ⟨hforward, hreach⟩ := h.forward (Nat.min_le_right offset t.bytes.size)
  obtain ⟨hbackward, hsettles⟩ := hforward.backward hreach
  have hbytes : ((t.forward (min offset t.bytes.size)).backward
      (min offset t.bytes.size)).bytes = t.bytes := (t.locate_frame offset).2
  rw [(t.forward_frame (min offset t.bytes.size)).2] at hsettles
  refine ⟨?_, hbackward.resolve⟩
  simp only [LineTracker.locate, hbackward.resolve_eq, Option.getD_some, hbackward.line_eq, hbytes,
    place_eq hsettles]

/-- Below the cap, no coordinate is cut off. -/
theorem Sound.fits_locate (h : t.Sound) (hsize : t.bytes.size + 1 < UInt32.size) (offset : Nat) :
    (t.locate offset).1.Fits := by
  obtain ⟨hforward, hreach⟩ := h.forward (Nat.min_le_right offset t.bytes.size)
  obtain ⟨hbackward, -⟩ := hforward.backward hreach
  have hbytes : ((t.forward (min offset t.bytes.size)).backward
      (min offset t.bytes.size)).bytes = t.bytes := (t.locate_frame offset).2
  simp only [LineTracker.locate, hbackward.resolve_eq, Option.getD_some]
  generalize (t.forward (min offset t.bytes.size)).backward (min offset t.bytes.size) = u at *
  have hsame : u.bytes.size = t.bytes.size := congrArg ByteArray.size hbytes
  have hline := hbackward.line_le
  have hoffset := hbackward.offset_le
  have hstart := lineStartBefore_le u.bytes u.offset
  have hend := lineEndFrom_le_size u.bytes u.offset
  have hcolumn := codePointsIn_le u.bytes (lineStartBefore u.bytes u.offset)
    (min offset t.bytes.size - lineStartBefore u.bytes u.offset)
  constructor <;> dsimp only <;> omega

/-- The location of a span does not depend on what has been asked before. -/
theorem Sound.location (h : t.Sound) (span : Span) :
    (t.location span).1 = (LineTracker.location { path := t.path, bytes := t.bytes } span).1 ∧
      (t.location span).2.Sound ∧ (t.location span).2.path = t.path ∧
      (t.location span).2.bytes = t.bytes := by
  obtain ⟨hplace, hsound⟩ := h.locate span.start
  obtain ⟨hfresh, -⟩ := (Sound.fresh t.path t.bytes).locate span.start
  obtain ⟨hpath, hbytes⟩ := t.locate_frame span.start
  obtain ⟨hpath', hbytes'⟩ :=
    LineTracker.locate_frame { path := t.path, bytes := t.bytes } span.start
  refine ⟨?_, hsound, hpath, hbytes⟩
  simp only [LineTracker.location, LineTracker.lineText, hplace, hfresh, hpath, hbytes, hpath',
    hbytes']

/-- The answers to queries one after another. -/
def answers (t : LineTracker) : List Nat → List LineColumn
  | [] => []
  | offset :: offsets => (t.locate offset).1 :: (t.locate offset).2.answers offsets

theorem Sound.answers (h : t.Sound) (offsets : List Nat) :
    t.answers offsets = offsets.map (place t.bytes) := by
  induction offsets generalizing t with
  | nil => rfl
  | cons offset offsets ih =>
    obtain ⟨hplace, hsound⟩ := h.locate offset
    rw [LineTracker.answers, ih hsound, hplace, (t.locate_frame offset).2, List.map_cons]

/-- Each answer is the place of its offset, and hence what a tracker without a history answers. It
fits into 32 bits if the buffer is below the cap of sources. -/
theorem answers_eq_place (path : String) (bytes : ByteArray) (offsets : List Nat) :
    answers { path, bytes } offsets = offsets.map (place bytes) ∧
      answers { path, bytes } offsets =
        offsets.map (fun offset => (LineTracker.locate { path, bytes } offset).1) ∧
      (bytes.size + 1 < UInt32.size → ∀ p ∈ answers { path, bytes } offsets, p.Fits) := by
  have hplace := (Sound.fresh path bytes).answers offsets
  have hfresh : answers { path, bytes } offsets =
      offsets.map fun offset => (LineTracker.locate { path, bytes } offset).1 :=
    hplace.trans (List.map_congr_left fun offset _ =>
      ((Sound.fresh path bytes).locate offset).1.symm)
  refine ⟨hplace, hfresh, fun hsize p hp => ?_⟩
  rw [hfresh] at hp
  obtain ⟨offset, -, rfl⟩ := List.mem_map.1 hp
  exact (Sound.fresh path bytes).fits_locate hsize offset

/-- Lines that end in three different ways. -/
def brokenLines : ByteArray := "a\r\nb\u2028c\rd".toUTF8

theorem answers_eq_place_brokenLines :
    brokenLines.size + 1 < UInt32.size ∧
      answers { path := "lines", bytes := brokenLines } [9, 2, 6, 0] =
        [9, 2, 6, 0].map (place brokenLines) ∧
      ∀ p ∈ answers { path := "lines", bytes := brokenLines } [9, 2, 6, 0], p.Fits := by
  have hsize : brokenLines.size + 1 < UInt32.size := by decide
  obtain ⟨hplace, -, hfits⟩ := answers_eq_place "lines" brokenLines [9, 2, 6, 0]
  exact ⟨hsize, hplace, hfits hsize⟩

end LineTracker

end Lexis
